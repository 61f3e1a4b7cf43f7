import HostDialing.Proofs.Environment.Defaults
import HostDialing.Proofs.Json.Read
import HostDialing.Proofs.Settings.NumberText
import HostDialing.Settings.Json
import HostDialing.Text.Fields

/-!
# Settings from two sources

An environment and a JSON object that give the same numbers give the same settings, or are refused
for the same reason. The settings that come out of an environment are among those that JSON keeps
in full (`environment_agrees_with_json`).
-/

namespace HostDialing

/-- A setting as a member of an object, from behind the quote that opens its name. -/
def Setting.memberText (s : Setting) (n : UInt64) : List Char :=
  s.member.toList ++ '"' :: ':' :: decimal n.toNat

/-- The object of the numbers that are given, the refresh interval first, without blanks. -/
def GivenSettings.json (g : GivenSettings) : String :=
  let members := [Setting.refreshInterval, Setting.lookupTimeout].filterMap fun s =>
    (g.get? s).map fun n => '"' :: s.memberText n
  String.ofList ('\x7b' :: joined ',' members ++ ['\x7d'])

@[simp]
theorem ofJsonReading_ok {α : Type} (a : α) : ofJsonReading (.ok a) = .ok a := rfl

theorem readMember_memberText {g : GivenSettings} {s : Setting} (hg : g.get? s = none)
    (n : UInt64) {rest : List Char} (hrest : EndsNumber rest) :
    readMember g (s.memberText n ++ rest) = .ok (g.set s n, rest) := by
  have hname : readText [] (s.member.toList ++ '"' :: (':' :: decimal n.toNat ++ rest))
      = .ok (s.member.toList, ':' :: decimal n.toNat ++ rest) :=
    readText_plain (by cases s <;> rfl) [] _
  have hmember : Setting.ofMember? s.member.toList = some s := by cases s <;> decide +kernel
  have hcolon : readColon (':' :: decimal n.toNat ++ rest) = .ok (decimal n.toNat ++ rest) := by
    rw [List.cons_append, readColon, firstChar_cons rfl]
    rfl
  have hword : readWord (decimal n.toNat ++ rest) = .ok (n, rest) := by
    rw [readWord, readFound_decimal n hrest]
    rfl
  rw [Setting.memberText, List.append_assoc, List.cons_append, readMember, hname]
  simp only [ofJsonReading_ok, bind, Except.bind, hmember, hg, hcolon, hword]
  rfl

theorem readMembers_last {g : GivenSettings} {s : Setting} (hg : g.get? s = none) (n : UInt64)
    (room : Nat) (rest : List Char) :
    readMembers g (room + 1) (s.memberText n ++ '\x7d' :: rest) = .ok (g.set s n, rest) := by
  have hends : EndsNumber ('\x7d' :: rest) := by simp [EndsNumber, isExponentMark]
  rw [readMembers, readMember_memberText hg n hends]
  simp only [ofJsonReading_ok, bind, Except.bind, firstChar_cons (c := '\x7d') rfl]
  rfl

theorem readMembers_more {g : GivenSettings} {s : Setting} (hg : g.get? s = none) (n : UInt64)
    (room : Nat) (rest : List Char) :
    readMembers g (room + 1) (s.memberText n ++ ',' :: '"' :: rest)
      = readMembers (g.set s n) room rest := by
  have hends : EndsNumber (',' :: '"' :: rest) := by simp [EndsNumber, isExponentMark]
  rw [readMembers, readMember_memberText hg n hends]
  simp only [ofJsonReading_ok, bind, Except.bind, firstChar_cons (c := ',') rfl,
    firstChar_cons (c := '"') rfl]
  rfl

theorem readGiven_members (cs : List Char) :
    readGiven ('\x7b' :: '"' :: cs) = readMembers .none (cs.length + 1) cs := by
  rw [readGiven, firstChar_cons rfl]
  simp only [ofJsonReading_ok, bind, Except.bind, if_true, readObject,
    firstChar_cons (c := '"') rfl]
  rfl

theorem Settings.ofJson_of_readGiven {cs : List Char} {g : GivenSettings}
    (h : readGiven cs = .ok (g, [])) : Settings.ofJson (String.ofList cs) = .ok g.settings := by
  rw [ofJson, String.toList_ofList, h]
  rfl

/-- An object of numbers is read as the settings with those numbers. -/
theorem Settings.ofJson_json (g : GivenSettings) : Settings.ofJson g.json = .ok g.settings := by
  apply ofJson_of_readGiven
  rcases g with ⟨_ | n, _ | m⟩
  · rfl
  · show readGiven ('\x7b' :: '"' :: (Setting.lookupTimeout.memberText m ++ ['\x7d'])) = _
    rw [readGiven_members, readMembers_last rfl]
    rfl
  · show readGiven ('\x7b' :: '"' :: (Setting.refreshInterval.memberText n ++ ['\x7d'])) = _
    rw [readGiven_members, readMembers_last rfl]
    rfl
  · have htext : joined ',' ['"' :: Setting.refreshInterval.memberText n,
        '"' :: Setting.lookupTimeout.memberText m] ++ ['\x7d']
          = '"' :: (Setting.refreshInterval.memberText n
            ++ ',' :: '"' :: (Setting.lookupTimeout.memberText m ++ ['\x7d'])) := by
      simp [joined]
    show readGiven ('\x7b' :: (joined ',' ['"' :: Setting.refreshInterval.memberText n,
      '"' :: Setting.lookupTimeout.memberText m] ++ ['\x7d'])) = _
    rw [htext, readGiven_members, readMembers_more rfl, List.length_append, List.length_cons,
      ← Nat.add_assoc, readMembers_last rfl]
    rfl

/-- A file changes no variable that has a text. -/
theorem Environment.text?_withFile {e e' : Environment} {file : Option (List UInt8)}
    (hfile : e.withFile? file = some e') {name value : String} (h : e.text? name = some value) :
    e'.text? name = some value := by
  cases file with
  | none => exact Option.some.inj hfile ▸ h
  | some content => rw [text?_load hfile, h, Option.some_or]

/-- Each setting either is not given and its variable is unset, or the variable holds a text of
its number. -/
def Environment.Gives (e : Environment) (g : GivenSettings) : Prop :=
  ∀ setting : Setting, match g.get? setting with
    | none => e.text? setting.key = none
    | some n => ∃ value, e.text? setting.key = some value ∧ NumberText n value.toList

theorem Environment.Gives.override_eq {e : Environment} {g : GivenSettings} (h : e.Gives g)
    (s : Settings) (setting : Setting) :
    s.override setting e
      = .ok (((g.get? setting).map fun n => s.set setting (setting.duration n)).getD s) := by
  have hsetting := h setting
  split at hsetting
  · rename_i hnone
    rw [Settings.override, hsetting, hnone]
    rfl
  · rename_i n hsome
    obtain ⟨value, htext, hnumber⟩ := hsetting
    simp only [Settings.override, htext, settingNumber?_eq_some_iff.2 hnumber, hsome,
      Option.map_some, Option.getD_some]

theorem GivenSettings.settings_eq (g : GivenSettings) :
    let s := ((g.get? .refreshInterval).map fun n =>
      Settings.default.set .refreshInterval (Setting.refreshInterval.duration n)).getD .default
    g.settings = ((g.get? .lookupTimeout).map fun n =>
      s.set .lookupTimeout (Setting.lookupTimeout.duration n)).getD s := by
  rcases g with ⟨_ | n, _ | m⟩ <;> rfl

theorem ok_bind {ε α β : Type} (a : α) (f : α → Except ε β) : (.ok a >>= f) = f a := rfl

theorem Settings.ofEnvironment_of_override {e : Environment} {s s' : Settings}
    (h : Settings.default.override .refreshInterval e = .ok s)
    (h' : s.override .lookupTimeout e = .ok s') :
    Settings.ofEnvironment e = s'.validate.map fun _ => s' := by
  have hlast : ∀ v : Except SettingsError Unit, (v >>= fun _ => pure s') = v.map fun _ => s' := by
    rintro (error | _) <;> rfl
  rw [ofEnvironment, h, ok_bind, h', ok_bind]
  exact hlast _

theorem Environment.Gives.ofEnvironment_eq {e : Environment} {g : GivenSettings}
    (h : e.Gives g) :
    Settings.ofEnvironment e = g.settings.validate.map fun _ => g.settings := by
  rw [g.settings_eq]
  exact Settings.ofEnvironment_of_override (h.override_eq _ _) (h.override_eq _ _)

theorem Settings.number_of_override {s s' : Settings} {setting : Setting} {e : Environment}
    (h : s.override setting e = .ok s') : match (e.text? setting.key).bind settingNumber? with
      | none => e.text? setting.key = none
      | some n => ∃ value, e.text? setting.key = some value ∧ NumberText n value.toList := by
  unfold override at h
  rcases htext : e.text? setting.key with _ | value
  · rfl
  rcases hnumber : settingNumber? value with _ | n
  · simp only [htext, hnumber] at h
    cases h
  · simp only [Option.bind_some, hnumber]
    exact ⟨value, rfl, settingNumber?_eq_some_iff.1 hnumber⟩

/-- Where an environment yields settings, each of its variables is unset or holds a number. -/
theorem Environment.exists_gives {e : Environment} {c : Settings}
    (h : Settings.ofEnvironment e = .ok c) :
    ∃ g, e.Gives g ∧ g.settings = c ∧ c.validate = .ok () := by
  have hgives : ∃ g, e.Gives g := by
    rw [Settings.ofEnvironment] at h
    rcases hrefresh : Settings.default.override .refreshInterval e with error | s
    · rw [hrefresh] at h
      cases h
    rw [hrefresh, ok_bind] at h
    rcases hlookup : s.override .lookupTimeout e with error | s'
    · rw [hlookup] at h
      cases h
    let number (setting : Setting) := (e.text? setting.key).bind settingNumber?
    refine ⟨⟨number .refreshInterval, number .lookupTimeout⟩, fun setting => ?_⟩
    cases setting with
    | refreshInterval => exact Settings.number_of_override hrefresh
    | lookupTimeout => exact Settings.number_of_override hlookup
  obtain ⟨g, hg⟩ := hgives
  rw [hg.ofEnvironment_eq] at h
  rcases hv : g.settings.validate with error | _
  · rw [hv] at h
    cases h
  · rw [hv] at h
    obtain rfl : g.settings = c := Except.ok.inj h
    exact ⟨g, hg, rfl, hv⟩

theorem Duration.wholeMillis_ofMillis (n : UInt64) : (Duration.ofMillis n).wholeMillis = n := by
  have htotal : (Duration.ofMillis n).totalNanos / 1000000 = n.toNat := by
    simp only [ofMillis, totalNanos, UInt64.toNat_div]
    change (n.toNat / 1000 * 1000000000 + n.toNat % 1000 * 1000000) / 1000000 = n.toNat
    omega
  simp only [wholeMillis, htotal]
  rw [dif_pos n.toNat_lt, UInt64.ofNatLT_toNat]

/-- The default of a setting is a number of its unit, too. -/
theorem GivenSettings.exists_full (g : GivenSettings) :
    ∃ n m, g.settings = (⟨some n, some m⟩ : GivenSettings).settings := by
  refine ⟨g.refreshInterval.getD 30, g.lookupTimeout.getD 10000, ?_⟩
  have hdefault : Settings.default.lookupTimeout = Setting.lookupTimeout.duration 10000 := by
    decide +kernel
  rcases g with ⟨_ | n, _ | m⟩
  · exact congrArg (Settings.mk _) hdefault
  · rfl
  · exact congrArg (Settings.mk _) hdefault
  · rfl

theorem GivenSettings.json_settings (n m : UInt64) :
    (⟨some n, some m⟩ : GivenSettings).settings.json
      = (⟨some n, some m⟩ : GivenSettings).json := by
  have hmillis : (⟨some n, some m⟩ : GivenSettings).settings.lookupTimeout.wholeMillis = m :=
    Duration.wholeMillis_ofMillis m
  have hsecs : (⟨some n, some m⟩ : GivenSettings).settings.refreshInterval.secs = n := rfl
  rw [Settings.json, hmillis, hsecs, ← String.toList_inj]
  simp [GivenSettings.json, GivenSettings.get?, Setting.memberText, joined]

theorem Environment.gives_decimal {e : Environment} {n m : UInt64}
    (hn : e.text? Setting.refreshInterval.key = some (String.ofList (decimal n.toNat)))
    (hm : e.text? Setting.lookupTimeout.key = some (String.ofList (decimal m.toNat))) :
    e.Gives ⟨some n, some m⟩ := by
  have hnumber (k : UInt64) : NumberText k (String.ofList (decimal k.toNat)).toList :=
    ⟨[], [], 0, [], by simp, by simp, by simp, .inl rfl⟩
  intro setting
  cases setting with
  | refreshInterval => exact ⟨_, hn, hnumber n⟩
  | lookupTimeout => exact ⟨_, hm, hnumber m⟩

/-- Where each variable is unset, or holds one of the texts of a number, the settings are those
that are read from the object of the same numbers, or are refused as those are. The settings that
an environment yields are read back from their JSON as they are, and variables with the two numbers
in it yield them again. A file next to the program may give what the environment leaves unset, or
end the program. -/
theorem environment_agrees_with_json :
    (∀ value n, settingNumber? value = some n ↔ NumberText n value.toList)
    ∧ (∀ e : Environment, e.withFile? none = some e)
    ∧ (∀ (e e' : Environment) file name value, e.withFile? file = some e' →
        e.text? name = some value → e'.text? name = some value)
    ∧ (∀ (e e' : Environment) file g, e.withFile? file = some e' → e'.Gives g →
        ∃ s, Settings.ofJson g.json = .ok s
          ∧ Settings.ofEnvironmentAndFile e file = some (s.validate.map fun _ => s))
    ∧ ∀ (e : Environment) file c, Settings.ofEnvironmentAndFile e file = some (.ok c) →
      Settings.ofJson c.json = .ok c
      ∧ ∃ n m : UInt64, c.json = (⟨some n, some m⟩ : GivenSettings).json
        ∧ ∀ (e' : Environment) file',
          e'.text? Setting.refreshInterval.key = some (String.ofList (decimal n.toNat)) →
          e'.text? Setting.lookupTimeout.key = some (String.ofList (decimal m.toNat)) →
            Settings.ofEnvironmentAndFile e' file' = (e'.withFile? file').map fun _ => .ok c := by
  refine ⟨fun value n => settingNumber?_eq_some_iff, fun e => rfl,
    fun e e' file name value hfile h => Environment.text?_withFile hfile h,
    fun e e' file g hfile hg => ?_, fun e file c hc => ?_⟩
  · refine ⟨g.settings, Settings.ofJson_json g, ?_⟩
    rw [Settings.ofEnvironmentAndFile, hfile, Option.map_some, hg.ofEnvironment_eq]
  · obtain ⟨loaded, -, hc⟩ := Option.map_eq_some_iff.1 hc
    obtain ⟨g, -, rfl, hvalid⟩ := Environment.exists_gives hc
    obtain ⟨n, m, hfull⟩ := g.exists_full
    rw [hfull] at hvalid ⊢
    have hjson := GivenSettings.json_settings n m
    refine ⟨hjson ▸ Settings.ofJson_json _, n, m, hjson, fun e' file' hn hm => ?_⟩
    refine Option.map_congr fun loaded' hloaded => ?_
    have hgives := Environment.gives_decimal (Environment.text?_withFile hloaded hn)
      (Environment.text?_withFile hloaded hm)
    rw [hgives.ofEnvironment_eq, hvalid]
    rfl

/-- The refresh interval between two kinds of white space, and no lookup timeout. -/
def paddedEnvironment : Environment := ⟨[(Setting.refreshInterval.key, .text "\u2003+007 ")]⟩

theorem padded_environment_agrees :
    paddedEnvironment.Gives ⟨some 7, none⟩
    ∧ Settings.ofEnvironmentAndFile paddedEnvironment none
      = some (.ok ⟨.ofSeconds 7, .ofSeconds 10⟩)
    ∧ Settings.ofJson (Settings.mk (.ofSeconds 7) (.ofSeconds 10)).json
      = .ok ⟨.ofSeconds 7, .ofSeconds 10⟩ := by
  have hblank : ∀ blank, isWhiteSpace blank → ∀ c ∈ [blank], isWhiteSpace c := by
    intro blank h c hc
    rwa [List.mem_singleton.1 hc]
  have hgives : paddedEnvironment.Gives ⟨some 7, none⟩ := by
    intro setting
    cases setting with
    | refreshInterval =>
      exact ⟨"\u2003+007 ", by decide +kernel, ['\u2003'], ['+'], 2, [' '], by decide +kernel,
        hblank _ rfl, hblank _ rfl, .inr rfl⟩
    | lookupTimeout =>
      show paddedEnvironment.text? Setting.lookupTimeout.key = none
      decide +kernel
  obtain ⟨-, hnone, -, hjson, hback⟩ := environment_agrees_with_json
  obtain ⟨s, hs, henv⟩ := hjson paddedEnvironment _ none _ (hnone _) hgives
  have hread : (.ok s : Except SettingsTextError Settings) = .ok ⟨.ofSeconds 7, .ofSeconds 10⟩ :=
    hs.symm.trans (Settings.ofJson_json _)
  obtain rfl := Except.ok.inj hread
  have hok : Settings.ofEnvironmentAndFile paddedEnvironment none
      = some (.ok ⟨.ofSeconds 7, .ofSeconds 10⟩) := henv.trans (by decide +kernel)
  exact ⟨hgives, hok, (hback _ _ _ hok).1⟩

end HostDialing

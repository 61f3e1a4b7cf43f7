import HostDialing.Proofs.Json.Grammar
import HostDialing.Proofs.Settings.Agreement
import HostDialing.Proofs.Text.Fields

/-!
# The members of a settings object

Which settings an object gives depends on its two known members only. They may stand anywhere, with
any spelling of their names and blanks around them; other members, whatever values they have, are
passed over. A known name that comes a second time is refused there and then
(`Settings.ofJson_members`).
-/

namespace HostDialing

/-- A member of an object, with what stands around its name and value. -/
structure Member where
  name : List Char
  spelling : List Char
  spells : Spells spelling name
  value : List Char
  isValue : JsonText .value value
  before : Blanks
  behindName : Blanks
  beforeValue : Blanks
  behind : Blanks

/-- A member from behind the quote that opens its name. -/
def Member.fromName (m : Member) : List Char :=
  m.spelling ++ '"' :: (m.behindName.text
    ++ ':' :: (m.beforeValue.text ++ (m.value ++ m.behind.text)))

def Member.text (m : Member) : List Char := m.before.text ++ '"' :: m.fromName

/-- A text is an object with these members. -/
def ObjectText (ms : List Member) (text : String) : Prop :=
  ∃ before inner behind : Blanks, text.toList = before.text
    ++ '\x7b' :: (joined ',' (ms.map Member.text) ++ (inner.text ++ '\x7d' :: behind.text))

/-- A plain integer in an array, with what stands around it. -/
structure Item where
  number : UInt64
  before : Blanks
  behind : Blanks

def Item.text (i : Item) : List Char := i.before.text ++ (decimal i.number.toNat ++ i.behind.text)

/-- A text is an array of these numbers. -/
def ArrayText (ns : List UInt64) (text : String) : Prop :=
  ∃ (items : List Item) (before inner behind : Blanks), items.map Item.number = ns
    ∧ text.toList = before.text
      ++ '[' :: (joined ',' (items.map Item.text) ++ (inner.text ++ ']' :: behind.text))

/-- A member with the name of a setting. -/
def Member.isKnown (m : Member) : Bool :=
  m.name = Setting.refreshInterval.member.toList || m.name = Setting.lookupTimeout.member.toList

/-- The values of the members with the name of a setting. -/
def Setting.values (s : Setting) (ms : List Member) : List (List Char) :=
  (ms.filter (·.name = s.member.toList)).map (·.value)

/-- The plain integer of a number that is given. -/
def numerals (n : Option UInt64) : List (List Char) := n.toList.map fun n => decimal n.toNat

/-- Each setting has one member with its number if it is given, and none if not. -/
def GivenSettings.Fits (g : GivenSettings) (ms : List Member) : Prop :=
  ∀ s : Setting, s.values ms = numerals (g.get? s)

/-- What a member adds to the numbers read so far. -/
inductive GivenSettings.Takes : GivenSettings → Member → GivenSettings → Prop where
  | unknown {g : GivenSettings} {m : Member} (h : ∀ s : Setting, m.name ≠ s.member.toList) :
      Takes g m g
  | known {g : GivenSettings} {m : Member} {s : Setting} {n : UInt64}
      (hname : m.name = s.member.toList) (hnew : g.get? s = .none)
      (hvalue : m.value = decimal n.toNat) : Takes g m (g.set s n)

theorem Setting.ofMember?_member (s : Setting) : ofMember? s.member.toList = some s := by
  cases s <;> decide +kernel

theorem Setting.ofMember?_eq_none {name : List Char} (h : ∀ s : Setting, name ≠ s.member.toList) :
    ofMember? name = none := by
  rw [ofMember?, if_neg (h .refreshInterval), if_neg (h .lookupTimeout)]

theorem readColon_blanks (b : Blanks) (rest : List Char) :
    readColon (b.text ++ ':' :: rest) = .ok rest := by
  rw [readColon, b.firstChar_append, firstChar_cons rfl]
  rfl

theorem readWord_decimal (b : Blanks) (n : UInt64) {rest : List Char} (h : EndsNumber rest) :
    readWord (b.text ++ (decimal n.toNat ++ rest)) = .ok (n, rest) := by
  have hfound : readFound (b.text ++ (decimal n.toNat ++ rest)) = .ok (.word n, rest) := by
    rw [readFound, b.firstChar_append, ← readFound, readFound_decimal n h]
  rw [readWord, hfound]
  rfl

theorem readMember_of_takes {g g' : GivenSettings} {m : Member} (h : g.Takes m g')
    {rest : List Char} (hrest : EndsNumber rest) :
    readMember g (m.fromName ++ rest) = .ok (g', m.behind.text ++ rest) := by
  have hname := readText_of_spells m.spells []
  have hbehind := m.behind.endsNumber hrest
  simp only [Member.fromName, List.append_assoc, List.cons_append]
  rw [readMember, hname]
  cases h with
  | unknown h =>
    simp only [ofJsonReading_ok, bind, Except.bind, List.reverse_nil, List.nil_append,
      Setting.ofMember?_eq_none h, readColon_blanks,
      skipValue_of_jsonText m.isValue hbehind m.beforeValue]
    rfl
  | known hmember hnew hvalue =>
    simp only [ofJsonReading_ok, bind, Except.bind, List.reverse_nil, List.nil_append,
      hmember, Setting.ofMember?_member, hnew, readColon_blanks, hvalue,
      readWord_decimal m.beforeValue _ hbehind]
    rfl

theorem readMember_repeated {g : GivenSettings} {m : Member} {s : Setting}
    (hname : m.name = s.member.toList) (hs : (g.get? s).isSome) (rest : List Char) :
    readMember g (m.fromName ++ rest) = .error (.repeated s) := by
  have hspells := readText_of_spells m.spells []
  simp only [Member.fromName, List.append_assoc, List.cons_append]
  rw [readMember, hspells]
  simp only [ofJsonReading_ok, bind, Except.bind, List.reverse_nil, List.nil_append, hname,
    Setting.ofMember?_member, hs, if_true]
  rfl

/-- What the members of an object add, one after another. -/
inductive GivenSettings.TakesAll : GivenSettings → List Member → GivenSettings → Prop where
  | nil (g : GivenSettings) : TakesAll g [] g
  | cons {g g' g'' : GivenSettings} {m : Member} {ms : List Member} (h : g.Takes m g')
      (hms : TakesAll g' ms g'') : TakesAll g (m :: ms) g''

/-- Members behind another one. -/
def Member.others (ms : List Member) : List Char := ms.flatMap fun m => ',' :: m.text

theorem Member.joined_text (m : Member) (ms : List Member) :
    joined ',' ((m :: ms).map Member.text) = m.text ++ Member.others ms := by
  induction ms generalizing m with
  | nil => exact (List.append_nil _).symm
  | cons m' ms ih =>
    rw [List.map_cons, joined_cons (by simp), ih]
    rfl

theorem Member.length_le_others (ms : List Member) : ms.length ≤ (Member.others ms).length := by
  induction ms with
  | nil => exact le_rfl
  | cons m ms ih =>
    simp only [others, List.flatMap_cons, List.length_append, List.length_cons] at ih ⊢
    omega

theorem readMembers_lastMember {g g' : GivenSettings} {m : Member} (h : g.Takes m g') (room : Nat)
    (inner : Blanks) (rest : List Char) :
    readMembers g (room + 1) (m.fromName ++ (inner.text ++ '\x7d' :: rest)) = .ok (g', rest) := by
  have hends := inner.endsNumber (.cons (c := '\x7d') rfl (by decide) rfl rest)
  rw [readMembers, readMember_of_takes h hends]
  simp only [ofJsonReading_ok, bind, Except.bind, Blanks.firstChar_append,
    firstChar_cons (c := '\x7d') rfl]
  rfl

theorem readMembers_nextMember {g g' : GivenSettings} {m : Member} (h : g.Takes m g') (room : Nat)
    (m' : Member) (rest : List Char) :
    readMembers g (room + 1) (m.fromName ++ ',' :: (m'.text ++ rest))
      = readMembers g' room (m'.fromName ++ rest) := by
  have hends : EndsNumber (',' :: (m'.text ++ rest)) := .cons rfl (by decide) rfl _
  rw [readMembers, readMember_of_takes h hends]
  simp only [ofJsonReading_ok, bind, Except.bind, Blanks.firstChar_append, Member.text,
    List.append_assoc, List.cons_append, firstChar_cons (c := ',') rfl,
    firstChar_cons (c := '"') rfl]
  rfl

theorem readMembers_of_takesAll {g g' : GivenSettings} {m : Member} {ms : List Member}
    (h : g.TakesAll (m :: ms) g') {room : Nat} (hroom : ms.length < room) (inner : Blanks)
    (rest : List Char) :
    readMembers g room (m.fromName ++ (Member.others ms ++ (inner.text ++ '\x7d' :: rest)))
      = .ok (g', rest) := by
  induction ms generalizing g m room with
  | nil =>
    obtain ⟨room, rfl⟩ := Nat.exists_eq_add_one.2 hroom
    cases h with
    | cons h hms =>
      cases hms
      exact readMembers_lastMember h room inner rest
  | cons m' ms ih =>
    obtain ⟨room, rfl⟩ := Nat.exists_eq_add_one.2 (Nat.zero_lt_of_lt hroom)
    cases h with
    | cons h hms =>
      simp only [Member.others, List.flatMap_cons, List.cons_append, List.append_assoc]
      rw [readMembers_nextMember h]
      exact ih hms (Nat.lt_of_succ_lt_succ hroom)

/-- The first known name that comes again decides, whatever stands behind it. -/
theorem readMembers_of_repeated {g g' : GivenSettings} {m : Member} {s : Setting}
    (hname : m.name = s.member.toList) (hs : (g'.get? s).isSome) {before after : List Member}
    (h : g.TakesAll before g') {m₀ : Member} {ms : List Member}
    (hms : before ++ m :: after = m₀ :: ms) {room : Nat} (hroom : before.length < room)
    (rest : List Char) :
    readMembers g room (m₀.fromName ++ (Member.others ms ++ rest)) = .error (.repeated s) := by
  induction h generalizing m₀ ms room with
  | nil g =>
    obtain ⟨room, rfl⟩ := Nat.exists_eq_add_one.2 hroom
    obtain ⟨rfl, rfl⟩ := List.cons.inj hms
    rw [readMembers, readMember_repeated hname hs]
    rfl
  | @cons g g₁ g' b before hb hbefore ih =>
    obtain ⟨room, rfl⟩ := Nat.exists_eq_add_one.2 (Nat.zero_lt_of_lt hroom)
    obtain ⟨rfl, rfl⟩ := List.cons.inj hms
    obtain ⟨m₁, ms, hms'⟩ := List.exists_cons_of_ne_nil
      (List.append_ne_nil_of_right_ne_nil before (List.cons_ne_nil m after))
    rw [List.append_eq, hms']
    simp only [Member.others, List.flatMap_cons, List.cons_append, List.append_assoc]
    rw [readMembers_nextMember hb]
    exact ih hs hms' (Nat.lt_of_succ_lt_succ hroom)

theorem Setting.member_inj {s s' : Setting} (h : s.member.toList = s'.member.toList) : s = s' := by
  have := congrArg ofMember? h
  rwa [ofMember?_member, ofMember?_member, Option.some_inj] at this

theorem GivenSettings.get?_set (g : GivenSettings) (s s' : Setting) (n : UInt64) :
    (g.set s n).get? s' = if s' = s then some n else g.get? s' := by
  cases s <;> cases s' <;> rfl

theorem GivenSettings.ext_get? {g g' : GivenSettings} (h : ∀ s, g.get? s = g'.get? s) : g = g' := by
  have hinterval := h .refreshInterval
  have htimeout := h .lookupTimeout
  rcases g with ⟨i, t⟩
  rcases g' with ⟨i', t'⟩
  obtain rfl : i = i' := hinterval
  obtain rfl : t = t' := htimeout
  rfl

theorem Setting.values_cons_of_eq {s : Setting} {m : Member} (h : m.name = s.member.toList)
    (ms : List Member) : s.values (m :: ms) = m.value :: s.values ms := by
  simp [values, h]

theorem Setting.values_cons_of_ne {s : Setting} {m : Member} (h : m.name ≠ s.member.toList)
    (ms : List Member) : s.values (m :: ms) = s.values ms := by
  simp [values, h]

theorem decimal_toNat_inj {n k : UInt64} (h : decimal n.toNat = decimal k.toNat) : n = k := by
  have := congrArg digits? h
  rw [digits?_decimal, digits?_decimal, Option.some_inj] at this
  exact UInt64.toNat_inj.1 this

theorem numerals_inj {a b : Option UInt64} (h : numerals a = numerals b) : a = b := by
  rcases a with _ | n <;> rcases b with _ | k
  · rfl
  · cases h
  · cases h
  · exact congrArg some (decimal_toNat_inj (List.cons.inj h).1)

/-- One numeral more is one of a number that was not given. -/
theorem numerals_append_cons {a b : Option UInt64} {cs : List Char} {css : List (List Char)}
    (h : numerals a ++ cs :: css = numerals b) :
    a = none ∧ css = [] ∧ ∃ n, b = some n ∧ cs = decimal n.toNat := by
  rcases a with _ | n <;> rcases b with _ | k
  · cases h
  · obtain ⟨hcs, hcss⟩ := List.cons.inj h
    exact ⟨rfl, hcss, k, rfl, hcs⟩
  · cases h
  · simp [numerals] at h

/-- What one member adds to the numerals of each setting. -/
theorem GivenSettings.Takes.numerals_eq {g g' : GivenSettings} {m : Member} (h : g.Takes m g')
    (ms : List Member) (s : Setting) :
    numerals (g.get? s) ++ s.values (m :: ms) = numerals (g'.get? s) ++ s.values ms := by
  cases h with
  | unknown h => rw [Setting.values_cons_of_ne (h s)]
  | @known s' n hname hnew hvalue =>
    rw [get?_set]
    split_ifs with hs
    · subst hs
      rw [Setting.values_cons_of_eq hname, hnew, hvalue]
      rfl
    · rw [Setting.values_cons_of_ne fun heq => hs (Setting.member_inj (heq.symm.trans hname))]

/-- Members are taken one after another if and only if nothing comes twice. -/
theorem GivenSettings.takesAll_iff {g g' : GivenSettings} {ms : List Member} :
    g.TakesAll ms g'
      ↔ ∀ s : Setting, numerals (g.get? s) ++ s.values ms = numerals (g'.get? s) := by
  constructor
  · intro h s
    induction h with
    | nil g => exact List.append_nil _
    | cons hm _ ih => rw [hm.numerals_eq, ih]
  intro h
  induction ms generalizing g with
  | nil =>
    obtain rfl : g = g' := ext_get? fun s => numerals_inj (by simpa [Setting.values] using h s)
    exact .nil g
  | cons m ms ih =>
    have htake : ∃ g₁, g.Takes m g₁ := by
      by_cases hm : ∃ s : Setting, m.name = s.member.toList
      · obtain ⟨s, hs⟩ := hm
        obtain ⟨hnew, -, n, -, hvalue⟩ :=
          numerals_append_cons (Setting.values_cons_of_eq hs ms ▸ h s)
        exact ⟨_, .known hs hnew hvalue⟩
      · exact ⟨g, .unknown fun s hs => hm ⟨s, hs⟩⟩
    obtain ⟨g₁, hm⟩ := htake
    exact .cons hm (ih fun s => (hm.numerals_eq ms s).symm.trans (h s))

theorem GivenSettings.fits_iff {g : GivenSettings} {ms : List Member} :
    g.Fits ms ↔ GivenSettings.none.TakesAll ms g := by
  have hnone (s : Setting) : numerals (GivenSettings.none.get? s) = [] := by cases s <;> rfl
  simp only [takesAll_iff, hnone, List.nil_append, Fits]

/-- Members with plain integers are all taken, up to the first known name that comes again. -/
theorem GivenSettings.takesAll_or_repeated {ms : List Member}
    (h : ∀ m ∈ ms, ∀ s : Setting, m.name = s.member.toList → ∃ n : UInt64,
      m.value = decimal n.toNat) (g : GivenSettings) :
    (∃ g', g.TakesAll ms g') ∨ ∃ before m after s g', ms = before ++ m :: after
      ∧ g.TakesAll before g' ∧ m.name = s.member.toList ∧ (g'.get? s).isSome := by
  induction ms generalizing g with
  | nil => exact .inl ⟨g, .nil g⟩
  | cons m ms ih =>
    have hm : (∃ g₁, g.Takes m g₁)
        ∨ ∃ s : Setting, m.name = s.member.toList ∧ (g.get? s).isSome := by
      by_cases hm : ∃ s : Setting, m.name = s.member.toList
      · obtain ⟨s, hs⟩ := hm
        obtain ⟨n, hn⟩ := h m List.mem_cons_self s hs
        rcases hget : g.get? s with _ | k
        · exact .inl ⟨_, .known hs hget hn⟩
        · exact .inr ⟨s, hs, hget ▸ rfl⟩
      · exact .inl ⟨g, .unknown fun s hs => hm ⟨s, hs⟩⟩
    rcases hm with ⟨g₁, hm⟩ | ⟨s, hs, hget⟩
    · rcases ih (fun m' hm' => h m' (List.mem_cons_of_mem _ hm')) g₁ with
        ⟨g', hg'⟩ | ⟨before, m', after, s, g', rfl, hbefore, hname, hs⟩
      · exact .inl ⟨g', .cons hm hg'⟩
      · exact .inr ⟨m :: before, m', after, s, g', rfl, .cons hm hbefore, hname, hs⟩
    · exact .inr ⟨[], m, ms, s, g, rfl, .nil g, hs, hget⟩

theorem readGiven_blanks (b : Blanks) (cs : List Char) :
    readGiven (b.text ++ cs) = readGiven cs := by
  simp only [readGiven, readFound, b.firstChar_append]

theorem Settings.ofJson_of_blanks {text : String} {cs : List Char} {before behind : Blanks}
    (htext : text.toList = before.text ++ cs) {g : GivenSettings}
    (h : readGiven cs = .ok (g, behind.text)) : Settings.ofJson text = .ok g.settings := by
  have hblank : skipBlank behind.text = [] := by
    simpa [skipBlank] using behind.skipBlank_append []
  rw [ofJson, htext, readGiven_blanks, h]
  simp only [bind, Except.bind, hblank, if_true]
  rfl

theorem readGiven_object (m : Member) (rest : List Char) :
    readGiven ('\x7b' :: (m.text ++ rest))
      = readMembers .none ((m.fromName ++ rest).length + 1) (m.fromName ++ rest) := by
  rw [readGiven, firstChar_cons rfl]
  simp only [ofJsonReading_ok, bind, Except.bind, if_true, readObject, Member.text,
    List.append_assoc, List.cons_append, Blanks.firstChar_append, firstChar_cons (c := '"') rfl]
  rfl

theorem readGiven_of_fits {g : GivenSettings} {ms : List Member} (h : g.Fits ms) (inner : Blanks)
    (rest : List Char) :
    readGiven ('\x7b' :: (joined ',' (ms.map Member.text) ++ (inner.text ++ '\x7d' :: rest)))
      = .ok (g, rest) := by
  have htakes := GivenSettings.fits_iff.1 h
  rcases ms with _ | ⟨m, ms⟩
  · cases htakes
    rw [readGiven, firstChar_cons rfl]
    simp only [ofJsonReading_ok, bind, Except.bind, if_true, readObject, List.map_nil, joined,
      List.nil_append, Blanks.firstChar_append, firstChar_cons (c := '\x7d') rfl]
    rfl
  · rw [Member.joined_text, List.append_assoc, readGiven_object]
    refine readMembers_of_takesAll htakes ?_ inner rest
    have := Member.length_le_others ms
    simp only [List.length_append]
    omega

theorem readGiven_of_repeated {g : GivenSettings} {before : List Member} (h : g.Fits before)
    {m : Member} {s : Setting} (hname : m.name = s.member.toList) (hs : (g.get? s).isSome)
    (after : List Member) (rest : List Char) :
    readGiven ('\x7b' :: (joined ',' ((before ++ m :: after).map Member.text) ++ rest))
      = .error (.repeated s) := by
  obtain ⟨m₀, ms, hms⟩ := List.exists_cons_of_ne_nil
    (List.append_ne_nil_of_right_ne_nil before (List.cons_ne_nil m after))
  have hlength := congrArg List.length hms
  have := Member.length_le_others ms
  rw [hms, Member.joined_text, List.append_assoc, readGiven_object]
  refine readMembers_of_repeated hname hs (GivenSettings.fits_iff.1 h) hms ?_ rest
  simp only [List.length_append, List.length_cons] at hlength ⊢
  omega

theorem firstChar_decimal (b : Blanks) (n : UInt64) (rest : List Char) :
    ∃ c cs, firstChar (b.text ++ (decimal n.toNat ++ rest)) = .ok (c, cs) ∧ c ≠ ']' := by
  obtain ⟨c, cs, hcs⟩ := List.exists_cons_of_ne_nil (decimal_ne_nil n.toNat)
  have hdigit : c.isDigit := isDigit_of_mem_decimal (hcs ▸ List.mem_cons_self)
  refine ⟨c, cs ++ rest, ?_, ?_⟩
  · rw [hcs, b.firstChar_append, List.cons_append, firstChar_cons (isJsonBlank_of_isDigit hdigit)]
  · rintro rfl
    exact absurd hdigit (by decide)

/-- An array of at most two numbers: the refresh interval, then the lookup timeout. -/
theorem readGiven_array {items : List Item} (h : items.length ≤ 2) (inner : Blanks)
    (rest : List Char) :
    readGiven ('[' :: (joined ',' (items.map Item.text) ++ (inner.text ++ ']' :: rest)))
      = .ok (⟨(items.map Item.number)[0]?, (items.map Item.number)[1]?⟩, rest) := by
  have hbracket (cs : List Char) : readGiven ('[' :: cs) = readArray cs := by
    rw [readGiven, firstChar_cons rfl]
    rfl
  have hclosing : EndsNumber (']' :: rest) := .cons rfl (by decide) rfl rest
  have hcomma (cs : List Char) : EndsNumber (',' :: cs) := .cons rfl (by decide) rfl cs
  have hfirst (i : Item) {rest : List Char} (hrest : EndsNumber rest) :
      readArray (i.text ++ rest)
        = readSecond (GivenSettings.none.set .refreshInterval i.number)
          (i.behind.text ++ rest) := by
    obtain ⟨c, cs, hc, hne⟩ := firstChar_decimal i.before i.number (i.behind.text ++ rest)
    have hword := readWord_decimal i.before i.number (i.behind.endsNumber hrest)
    simp only [Item.text, List.append_assoc, readArray, hc, ofJsonReading_ok, bind, Except.bind,
      hne, if_false, hword]
  rw [hbracket]
  rcases items with _ | ⟨i, _ | ⟨j, _ | ⟨k, items⟩⟩⟩
  · simp only [List.map_nil, joined, List.nil_append, readArray, Blanks.firstChar_append,
      firstChar_cons (c := ']') rfl, ofJsonReading_ok, bind, Except.bind, if_true]
    rfl
  · simp only [List.map_cons, List.map_nil, joined]
    rw [hfirst i (inner.endsNumber hclosing)]
    simp only [readSecond, Blanks.firstChar_append, firstChar_cons (c := ']') rfl,
      ofJsonReading_ok, bind, Except.bind, if_true]
    rfl
  · simp only [List.map_cons, List.map_nil, joined, List.append_assoc, List.cons_append]
    obtain ⟨c, cs, hc, hne⟩ := firstChar_decimal j.before j.number
      (j.behind.text ++ (inner.text ++ ']' :: rest))
    have hword := readWord_decimal j.before j.number
      (j.behind.endsNumber (inner.endsNumber hclosing))
    rw [hfirst i (hcomma _)]
    simp only [readSecond, Blanks.firstChar_append, firstChar_cons (c := ',') rfl,
      ofJsonReading_ok, bind, Except.bind, if_true, if_false, Char.reduceEq, Item.text,
      List.append_assoc, hc, hne, hword, readArrayEnd, firstChar_cons (c := ']') rfl]
    rfl
  · simp at h

theorem Setting.values_filter_isKnown (s : Setting) (ms : List Member) :
    s.values (ms.filter Member.isKnown) = s.values ms := by
  rw [values, List.filter_filter, values]
  congr 2
  funext m
  by_cases h : m.name = s.member.toList
  · cases s <;> simp [Member.isKnown, h]
  · simp [h]

/-- With one value at most, the order does not matter. -/
theorem GivenSettings.Fits.of_perm {g : GivenSettings} {ms ms' : List Member} (h : g.Fits ms)
    (hperm : (ms.filter Member.isKnown).Perm (ms'.filter Member.isKnown)) : g.Fits ms' := by
  intro s
  have hvalues : (s.values ms).Perm (s.values ms') := by
    rw [← s.values_filter_isKnown ms, ← s.values_filter_isKnown ms']
    exact (hperm.filter _).map _
  rw [h s] at hvalues
  rcases hget : g.get? s with _ | n
  · rw [hget] at hvalues
    exact hvalues.nil_eq.symm
  · rw [hget] at hvalues
    exact (List.singleton_perm.1 hvalues).symm

theorem GivenSettings.Fits.isSome_get?_iff {g : GivenSettings} {ms : List Member} (h : g.Fits ms)
    (s : Setting) : (g.get? s).isSome ↔ ∃ m ∈ ms, m.name = s.member.toList := by
  have hvalues : (g.get? s).isSome ↔ s.values ms ≠ [] := by
    rw [h s]
    cases g.get? s <;> simp [numerals]
  rw [hvalues, Setting.values, Ne, List.map_eq_nil_iff, List.filter_eq_nil_iff]
  simp

theorem GivenSettings.settings_eq_getD (g : GivenSettings) : g.settings
    = ⟨.ofSeconds (g.refreshInterval.getD 30), .ofMillis (g.lookupTimeout.getD 10000)⟩ := by
  have hdefault : Settings.default.lookupTimeout = .ofMillis 10000 := by decide +kernel
  rcases g with ⟨_ | n, _ | m⟩
  · exact congrArg (Settings.mk _) hdefault
  · rfl
  · exact congrArg (Settings.mk _) hdefault
  · rfl

/-- An object in which each setting has at most one member, and then a plain integer, gives the
settings with those numbers and the defaults for the others, whatever order the members have and
whatever other members there are. An array of at most two numbers gives what an object with the
first of the settings does. Where the name of a setting comes again, it is refused, whatever value
it has and whatever stands behind it; with plain integers there is nothing else to refuse. -/
theorem Settings.ofJson_members :
    (∀ (g : GivenSettings) ms text, g.Fits ms → ObjectText ms text → Settings.ofJson text
      = .ok ⟨.ofSeconds (g.refreshInterval.getD 30), .ofMillis (g.lookupTimeout.getD 10000)⟩)
    ∧ (∀ (g : GivenSettings) ms ms' text text', g.Fits ms →
      (ms.filter Member.isKnown).Perm (ms'.filter Member.isKnown) → ObjectText ms text →
      ObjectText ms' text' → Settings.ofJson text' = Settings.ofJson text)
    ∧ (∀ ns text, ns.length ≤ 2 → ArrayText ns text → Settings.ofJson text
      = .ok ⟨.ofSeconds (ns[0]?.getD 30), .ofMillis (ns[1]?.getD 10000)⟩)
    ∧ (∀ (before : List Member) m after (s : Setting) text,
      (∃ g : GivenSettings, g.Fits before) → m.name = s.member.toList →
      (∃ m' ∈ before, m'.name = m.name) → ObjectText (before ++ m :: after) text →
      Settings.ofJson text = .error (.repeated s))
    ∧ ∀ ms : List Member, (∀ m ∈ ms, ∀ s : Setting, m.name = s.member.toList → ∃ n : UInt64,
        m.value = decimal n.toNat) →
      (∃ g : GivenSettings, g.Fits ms) ∨ ∃ before m after, ∃ s : Setting,
        ms = before ++ m :: after ∧ (∃ g : GivenSettings, g.Fits before)
        ∧ m.name = s.member.toList ∧ ∃ m' ∈ before, m'.name = m.name := by
  have hread {g : GivenSettings} {ms : List Member} {text : String} (h : g.Fits ms)
      (htext : ObjectText ms text) : Settings.ofJson text = .ok g.settings := by
    obtain ⟨before, inner, behind, htext⟩ := htext
    exact ofJson_of_blanks htext (readGiven_of_fits h inner behind.text)
  refine ⟨fun g ms text h htext => ?_, fun g ms ms' text text' h hperm htext htext' => ?_,
    fun ns text hns htext => ?_, fun before m after s text hg hname hbefore htext => ?_,
    fun ms hms => ?_⟩
  · rw [hread h htext, g.settings_eq_getD]
  · rw [hread h htext, hread (h.of_perm hperm) htext']
  · obtain ⟨items, before, inner, behind, rfl, htext⟩ := htext
    have harray := readGiven_array (by simpa using hns) inner behind.text
    rw [ofJson_of_blanks htext harray, GivenSettings.settings_eq_getD]
  · obtain ⟨g, hg⟩ := hg
    obtain ⟨b, inner, behind, htext⟩ := htext
    have hs : (g.get? s).isSome := by
      rw [hg.isSome_get?_iff, ← hname]
      exact hbefore
    rw [ofJson, htext, readGiven_blanks, readGiven_of_repeated hg hname hs]
    rfl
  · rcases GivenSettings.takesAll_or_repeated hms .none with
      ⟨g, hg⟩ | ⟨before, m, after, s, g, rfl, hg, hname, hs⟩
    · exact .inl ⟨g, GivenSettings.fits_iff.2 hg⟩
    · have hfits := GivenSettings.fits_iff.2 hg
      rw [hfits.isSome_get?_iff, ← hname] at hs
      exact .inr ⟨before, m, after, s, rfl, ⟨g, hfits⟩, hname, hs⟩

/-- A known name in the value of another member is none; one with an escape in it is. -/
example : Settings.ofJson
    "\x7b\"a\": [\x7b\"lookup_timeout_ms\": -1e999\x7d], \"lookup\\u005ftimeout_ms\": 5\x7d"
      = .ok ⟨.ofSeconds 30, .ofMillis 5⟩ := by
  decide +kernel

end HostDialing

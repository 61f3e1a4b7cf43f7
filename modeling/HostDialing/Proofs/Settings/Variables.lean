import HostDialing.Proofs.Settings.Shortened

/-!
# What variables come to

Each of the two variables is unset, holds a number, or holds something else
(`Setting.takes_or_unreadable`). A text that is no number is reported first, that of the refresh
interval before that of the lookup timeout; only then is a zero, the refresh interval again first.
`EnvironmentOutcome` has the cases; for any two texts there is one (`exists_outcome`), and it is
what the environment comes to (`ofEnvironment_eq`).
-/

namespace HostDialing

/-- The text is the number in ASCII digits, behind an optional plus sign, with white space around
it. -/
def Denotes (value : String) (n : Nat) : Prop :=
  ∃ before sign digits behind, value.toList = before ++ (sign ++ digits) ++ behind
    ∧ (∀ c ∈ before, isWhiteSpace c) ∧ (∀ c ∈ behind, isWhiteSpace c)
    ∧ (sign = [] ∨ sign = ['+'])
    ∧ digits ≠ [] ∧ (∀ c ∈ digits, c.isDigit) ∧ Nat.ofDigitChars 10 digits 0 = n

theorem denotes_iff_numberText {value : String} {n : UInt64} :
    Denotes value n.toNat ↔ NumberText n value.toList := by
  constructor
  · rintro ⟨before, sign, digits, behind, htext, hbefore, hbehind, hsign, hne, hdigits, hvalue⟩
    obtain ⟨zeros, hzeros⟩ := digits_eq hne hdigits
    rw [hvalue] at hzeros
    exact ⟨before, sign, zeros, behind, by rw [htext, hzeros, List.append_assoc sign], hbefore,
      hbehind, hsign⟩
  · rintro ⟨before, sign, zeros, behind, htext, hbefore, hbehind, hsign⟩
    exact ⟨before, sign, List.replicate zeros '0' ++ decimal n.toNat, behind,
      by rw [htext, List.append_assoc sign], hbefore, hbehind, hsign, by simp [decimal_ne_nil],
      fun c hc => isDigit_of_mem_zeros hc, ofDigitChars_zeros _ _⟩

theorem settingNumber?_eq_some_iff_denotes {value : String} {n : UInt64} :
    settingNumber? value = some n ↔ Denotes value n.toNat :=
  settingNumber?_eq_some_iff.trans denotes_iff_numberText.symm

theorem settingNumber?_eq_none_iff {value : String} :
    settingNumber? value = none ↔ ∀ n < 2 ^ 64, ¬ Denotes value n := by
  rw [Option.eq_none_iff_forall_ne_some]
  constructor
  · intro h n hn hdenotes
    refine h (UInt64.ofNatLT n hn) (settingNumber?_eq_some_iff_denotes.2 ?_)
    rwa [UInt64.toNat_ofNatLT]
  · exact fun h n hsome => h n.toNat n.toNat_lt (settingNumber?_eq_some_iff_denotes.1 hsome)

/-- The unit in which a setting is written, in nanoseconds. -/
def Setting.unit : Setting → Nat
  | refreshInterval => 1000000000
  | lookupTimeout => 1000000

def Settings.get (s : Settings) : Setting → Duration
  | .refreshInterval => s.refreshInterval
  | .lookupTimeout => s.lookupTimeout

/-- What a setting takes from its variable: the default if it is unset, else its number. -/
def Setting.Takes (setting : Setting) (text? : Option String) (d : Duration) : Prop :=
  match text? with
  | none => d = Settings.default.get setting
  | some value => ∃ n < 2 ^ 64, Denotes value n ∧ d.totalNanos = n * setting.unit

/-- The variable is set to a text that is no number, or one beyond sixty-four bits. -/
def Unreadable (text? : Option String) (value : String) : Prop :=
  text? = some value ∧ ∀ n < 2 ^ 64, ¬ Denotes value n

theorem Setting.totalNanos_duration (setting : Setting) (n : UInt64) :
    (setting.duration n).totalNanos = n.toNat * setting.unit := by
  cases setting with
  | refreshInterval => exact Nat.add_zero _
  | lookupTimeout => exact Duration.totalNanos_ofMillis n

theorem Setting.takes_or_unreadable (setting : Setting) (text? : Option String) :
    (∃ d, setting.Takes text? d) ∨ ∃ value, Unreadable text? value := by
  rcases text? with _ | value
  · exact .inl ⟨_, rfl⟩
  rcases h : settingNumber? value with _ | n
  · exact .inr ⟨value, rfl, settingNumber?_eq_none_iff.1 h⟩
  · exact .inl ⟨setting.duration n, n.toNat, n.toNat_lt, settingNumber?_eq_some_iff_denotes.1 h,
      setting.totalNanos_duration n⟩

section override

variable {s : Settings} {setting : Setting} {e : Environment}

theorem Settings.override_of_unreadable {value : String}
    (h : Unreadable (e.text? setting.key) value) :
    s.override setting e = .error (.invalidVariable setting value) := by
  simp only [override, h.1, settingNumber?_eq_none_iff.2 h.2]

theorem Settings.override_of_takes {d : Duration} (hs : s.get setting = default.get setting)
    (h : setting.Takes (e.text? setting.key) d) :
    s.override setting e = .ok (s.set setting d) := by
  unfold Setting.Takes at h
  split at h
  · rename_i hnone
    rw [h, ← hs]
    cases setting <;> simp only [override, hnone] <;> rfl
  · rename_i value hsome
    obtain ⟨n, hn, hdenotes, hd⟩ := h
    have hnumber : settingNumber? value = some (UInt64.ofNatLT n hn) :=
      settingNumber?_eq_some_iff_denotes.2 (by rwa [UInt64.toNat_ofNatLT])
    obtain rfl : setting.duration (UInt64.ofNatLT n hn) = d := Duration.eq_of_totalNanos_eq <| by
      rw [setting.totalNanos_duration, UInt64.toNat_ofNatLT, hd]
    simp only [override, hsome, hnumber]

end override

/-- What the texts of the two variables come to. -/
inductive EnvironmentOutcome (interval? timeout? : Option String) :
    Except SettingsError Settings → Prop
  | intervalUnreadable (value : String) (unreadable : Unreadable interval? value) :
    EnvironmentOutcome interval? timeout? (.error (.invalidVariable .refreshInterval value))
  | timeoutUnreadable (interval : Duration) (value : String)
    (takes : Setting.refreshInterval.Takes interval? interval)
    (unreadable : Unreadable timeout? value) :
    EnvironmentOutcome interval? timeout? (.error (.invalidVariable .lookupTimeout value))
  | intervalZero (interval timeout : Duration)
    (takes : Setting.refreshInterval.Takes interval? interval)
    (takes' : Setting.lookupTimeout.Takes timeout? timeout) (zero : interval.totalNanos = 0) :
    EnvironmentOutcome interval? timeout? (.error .zeroRefreshInterval)
  | timeoutZero (interval timeout : Duration)
    (takes : Setting.refreshInterval.Takes interval? interval)
    (takes' : Setting.lookupTimeout.Takes timeout? timeout) (positive : 0 < interval.totalNanos)
    (zero : timeout.totalNanos = 0) :
    EnvironmentOutcome interval? timeout? (.error .zeroLookupTimeout)
  | settings (interval timeout : Duration)
    (takes : Setting.refreshInterval.Takes interval? interval)
    (takes' : Setting.lookupTimeout.Takes timeout? timeout) (positive : 0 < interval.totalNanos)
    (positive' : 0 < timeout.totalNanos) :
    EnvironmentOutcome interval? timeout? (.ok ⟨interval, timeout⟩)

theorem EnvironmentOutcome.exists_outcome (interval? timeout? : Option String) :
    ∃ result, EnvironmentOutcome interval? timeout? result := by
  rcases Setting.refreshInterval.takes_or_unreadable interval? with ⟨interval, hi⟩ | ⟨value, hi⟩
  case inr => exact ⟨_, .intervalUnreadable value hi⟩
  rcases Setting.lookupTimeout.takes_or_unreadable timeout? with ⟨timeout, ht⟩ | ⟨value, ht⟩
  case inr => exact ⟨_, .timeoutUnreadable interval value hi ht⟩
  rcases Nat.eq_zero_or_pos interval.totalNanos with hzero | hpos
  · exact ⟨_, .intervalZero interval timeout hi ht hzero⟩
  rcases Nat.eq_zero_or_pos timeout.totalNanos with hzero | hpos'
  · exact ⟨_, .timeoutZero interval timeout hi ht hpos hzero⟩
  · exact ⟨_, .settings interval timeout hi ht hpos hpos'⟩

theorem error_bind {ε α β : Type} (error : ε) (f : α → Except ε β) :
    (.error error >>= f) = .error error :=
  rfl

theorem Duration.isZero_iff {d : Duration} : d.isZero ↔ d.totalNanos = 0 := beq_iff_eq

section both

variable {e : Environment} {interval timeout : Duration}

theorem Settings.ofEnvironment_of_takes
    (h : Setting.refreshInterval.Takes (e.text? Setting.refreshInterval.key) interval)
    (h' : Setting.lookupTimeout.Takes (e.text? Setting.lookupTimeout.key) timeout) :
    Settings.ofEnvironment e
      = (Settings.mk interval timeout).validate.map fun _ => ⟨interval, timeout⟩ :=
  ofEnvironment_of_override (override_of_takes rfl h) (override_of_takes rfl h')

theorem Settings.validate_of_pos (hpos : 0 < interval.totalNanos) (hpos' : 0 < timeout.totalNanos) :
    (Settings.mk interval timeout).validate = .ok () :=
  (validate_eq_ok_iff _).2
    ⟨mt Duration.isZero_iff.1 hpos.ne', mt Duration.isZero_iff.1 hpos'.ne'⟩

theorem EnvironmentOutcome.ofEnvironment_eq {result : Except SettingsError Settings}
    (h : EnvironmentOutcome (e.text? Setting.refreshInterval.key)
      (e.text? Setting.lookupTimeout.key) result) : Settings.ofEnvironment e = result := by
  cases h with
  | intervalUnreadable value hunreadable =>
    rw [Settings.ofEnvironment, Settings.override_of_unreadable hunreadable, error_bind]
  | timeoutUnreadable interval value htakes hunreadable =>
    rw [Settings.ofEnvironment, Settings.override_of_takes rfl htakes, ok_bind,
      Settings.override_of_unreadable hunreadable, error_bind]
  | intervalZero interval timeout htakes htakes' hzero =>
    have hinvalid : (Settings.mk interval timeout).validate = .error .zeroRefreshInterval :=
      if_pos (Duration.isZero_iff.2 hzero)
    rw [Settings.ofEnvironment_of_takes htakes htakes', hinvalid]
    rfl
  | timeoutZero interval timeout htakes htakes' hpos hzero =>
    have hinvalid : (Settings.mk interval timeout).validate = .error .zeroLookupTimeout :=
      (if_neg (mt Duration.isZero_iff.1 hpos.ne')).trans (if_pos (Duration.isZero_iff.2 hzero))
    rw [Settings.ofEnvironment_of_takes htakes htakes', hinvalid]
    rfl
  | settings interval timeout htakes htakes' hpos hpos' =>
    rw [Settings.ofEnvironment_of_takes htakes htakes', Settings.validate_of_pos hpos hpos']
    rfl

theorem EnvironmentOutcome.ofEnvironment_eq_iff {result : Except SettingsError Settings} :
    Settings.ofEnvironment e = result ↔ EnvironmentOutcome (e.text? Setting.refreshInterval.key)
      (e.text? Setting.lookupTimeout.key) result := by
  refine ⟨fun h => ?_, fun h => h.ofEnvironment_eq⟩
  obtain ⟨outcome, houtcome⟩ := exists_outcome (e.text? Setting.refreshInterval.key)
    (e.text? Setting.lookupTimeout.key)
  rwa [← h, houtcome.ofEnvironment_eq]

end both

theorem EnvironmentOutcome.validate_eq_ok {interval? timeout? : Option String} {c : Settings}
    (h : EnvironmentOutcome interval? timeout? (.ok c)) : c.validate = .ok () := by
  rcases h with _ | _ | _ | _ | ⟨interval, timeout, -, -, hpos, hpos'⟩
  exact Settings.validate_of_pos hpos hpos'

/-- What an environment comes to, with a file of defaults or without, is told by the texts that the
two variables then have, if any, and by nothing else; without a file they have those that they had.
There is nothing that it comes to if the program ends at the file. Settings that come of it are
valid. -/
theorem Settings.environment_outcome (e : Environment) :
    (∀ result, Settings.ofEnvironmentAndFile e none = some result
      ↔ EnvironmentOutcome (e.text? Setting.refreshInterval.key)
        (e.text? Setting.lookupTimeout.key) result)
    ∧ (∀ file result, Settings.ofEnvironmentAndFile e file = some result
      ↔ ∃ e', e.withFile? file = some e'
        ∧ EnvironmentOutcome (e'.text? Setting.refreshInterval.key)
          (e'.text? Setting.lookupTimeout.key) result)
    ∧ ∀ file c, Settings.ofEnvironmentAndFile e file = some (.ok c) → c.validate = .ok () := by
  have hfile : ∀ file result, Settings.ofEnvironmentAndFile e file = some result
      ↔ ∃ e', e.withFile? file = some e'
        ∧ EnvironmentOutcome (e'.text? Setting.refreshInterval.key)
          (e'.text? Setting.lookupTimeout.key) result := by
    intro file result
    rw [ofEnvironmentAndFile, Option.map_eq_some_iff]
    exact exists_congr fun e' => and_congr_right fun _ => EnvironmentOutcome.ofEnvironment_eq_iff
  refine ⟨fun result => ?_, hfile, fun file c hc => ?_⟩
  · rw [hfile]
    constructor
    · rintro ⟨e', he', h⟩
      exact Option.some.inj he' ▸ h
    · exact fun h => ⟨e, rfl, h⟩
  · obtain ⟨e', -, h⟩ := (hfile file _).1 hc
    exact h.validate_eq_ok

/-- A timeout that is no number is reported before an interval of zero. -/
example : Settings.ofEnvironment ⟨[(Setting.refreshInterval.key, .text " +0 "),
    (Setting.lookupTimeout.key, .text " soon ")]⟩
      = .error (.invalidVariable .lookupTimeout " soon ") := by
  decide +kernel

end HostDialing

import HostDialing.Proofs.Settings.Agreement

/-!
# What JSON keeps of settings

Settings are written in whole seconds and whole milliseconds, so what they have beside these is lost
where they are read back, and so are the milliseconds beyond the largest word
(`Settings.read_back`). Short settings come back as zero, and are refused.
-/

namespace HostDialing

theorem Duration.totalNanos_ofMillis (n : UInt64) :
    (Duration.ofMillis n).totalNanos = n.toNat * 1000000 := by
  simp only [ofMillis, totalNanos, UInt64.toNat_div]
  change n.toNat / 1000 * 1000000000 + n.toNat % 1000 * 1000000 = n.toNat * 1000000
  omega

/-- The milliseconds beyond the largest word are cut off. -/
theorem Duration.toNat_wholeMillis (d : Duration) :
    d.wholeMillis.toNat = min (d.totalNanos / 1000000) (2 ^ 64 - 1) := by
  simp only [wholeMillis]
  split_ifs with h
  · rw [UInt64.toNat_ofNatLT]
    exact (min_eq_left (Nat.le_sub_one_of_lt h)).symm
  · exact (min_eq_right (Nat.le_trans (by decide) (Nat.le_of_not_lt h))).symm

theorem Duration.ofSeconds_secs_eq_iff (d : Duration) :
    Duration.ofSeconds d.secs = d ↔ d.nanos = 0 := by
  rcases d with ⟨secs, nanos, h⟩
  simp [ofSeconds, eq_comm]

theorem Duration.eq_iff_totalNanos_eq {d e : Duration} : d = e ↔ d.totalNanos = e.totalNanos :=
  ⟨congrArg totalNanos, eq_of_totalNanos_eq⟩

/-- The whole milliseconds are the duration if there is nothing beside them and all of them fit. -/
theorem Duration.ofMillis_wholeMillis_eq_iff (d : Duration) :
    Duration.ofMillis d.wholeMillis = d
      ↔ d.nanos % 1000000 = 0 ∧ d.totalNanos / 1000000 ≤ 2 ^ 64 - 1 := by
  have hrest : d.totalNanos % 1000000 = d.nanos % 1000000 := by
    simp only [totalNanos]
    omega
  rw [eq_iff_totalNanos_eq, totalNanos_ofMillis, toNat_wholeMillis, ← hrest]
  omega

theorem Duration.isZero_ofSeconds_secs (d : Duration) :
    (Duration.ofSeconds d.secs).isZero ↔ d.totalNanos < 1000000000 := by
  have hlt := d.nanos_lt
  simp only [isZero, totalNanos, ofSeconds, beq_iff_eq]
  omega

theorem Duration.isZero_ofMillis_wholeMillis (d : Duration) :
    (Duration.ofMillis d.wholeMillis).isZero ↔ d.totalNanos < 1000000 := by
  rw [isZero, beq_iff_eq, totalNanos_ofMillis, toNat_wholeMillis]
  omega

/-- The numbers that are written for settings. -/
def Settings.given (s : Settings) : GivenSettings :=
  ⟨some s.refreshInterval.secs, some s.lookupTimeout.wholeMillis⟩

theorem Settings.settings_given (s : Settings) :
    s.given.settings = ⟨.ofSeconds s.refreshInterval.secs, .ofMillis s.lookupTimeout.wholeMillis⟩ :=
  rfl

theorem Settings.json_given (s : Settings) : s.given.json = s.json := by
  have hjson : s.given.settings.json = s.json := by
    rw [json, json, settings_given, Duration.wholeMillis_ofMillis]
    rfl
  exact (GivenSettings.json_settings _ _).symm.trans hjson

/-- What is written of settings is written again of what is read back. -/
theorem Settings.given_settings_given (s : Settings) : s.given.settings.given = s.given := by
  rw [given, settings_given, Duration.wholeMillis_ofMillis]
  rfl

theorem Settings.validate_eq_ok_iff (s : Settings) :
    s.validate = .ok () ↔ ¬ s.refreshInterval.isZero ∧ ¬ s.lookupTimeout.isZero := by
  unfold validate
  split_ifs with h h' <;> simp [*]

/-- Any settings are read back from their JSON with the whole seconds of the refresh interval and
the whole milliseconds of the lookup timeout, of which there are at most as many as a word holds. So
they come back as they were if and only if they have nothing beside these; what comes back has the
same JSON; and it is refused where the refresh interval was shorter than a second, or else the
lookup timeout shorter than a millisecond. -/
theorem Settings.read_back (s : Settings) :
    ∃ back, Settings.ofJson s.json = .ok back
      ∧ (back.refreshInterval.secs = s.refreshInterval.secs ∧ back.refreshInterval.nanos = 0)
      ∧ back.lookupTimeout.totalNanos
        = min (s.lookupTimeout.totalNanos / 1000000) (2 ^ 64 - 1) * 1000000
      ∧ (back = s ↔ s.refreshInterval.nanos = 0 ∧ s.lookupTimeout.nanos % 1000000 = 0
        ∧ s.lookupTimeout.totalNanos / 1000000 ≤ 2 ^ 64 - 1)
      ∧ back.json = s.json
      ∧ (back.validate = .ok () ↔ 1000000000 ≤ s.refreshInterval.totalNanos
        ∧ 1000000 ≤ s.lookupTimeout.totalNanos)
      ∧ (s.refreshInterval.totalNanos < 1000000000 →
        back.validate = .error .zeroRefreshInterval)
      ∧ (1000000000 ≤ s.refreshInterval.totalNanos → s.lookupTimeout.totalNanos < 1000000 →
        back.validate = .error .zeroLookupTimeout) := by
  have hinterval := s.refreshInterval.isZero_ofSeconds_secs
  have htimeout := s.lookupTimeout.isZero_ofMillis_wholeMillis
  refine ⟨s.given.settings, ?_, ⟨rfl, rfl⟩, ?_, ?_, ?_, ?_, fun h => ?_, fun h h' => ?_⟩
  · rw [← s.json_given]
    exact ofJson_json s.given
  · exact (Duration.totalNanos_ofMillis _).trans
      (congrArg (· * 1000000) s.lookupTimeout.toNat_wholeMillis)
  · rw [settings_given, ← Duration.ofSeconds_secs_eq_iff, ← Duration.ofMillis_wholeMillis_eq_iff]
    rcases s with ⟨interval, timeout⟩
    exact Settings.mk.injEq .. ▸ Iff.rfl
  · rw [← json_given, given_settings_given, json_given]
  · rw [validate_eq_ok_iff, settings_given, hinterval, htimeout, Nat.not_lt, Nat.not_lt]
  · exact if_pos (hinterval.2 h)
  · exact (if_neg fun hz => Nat.not_lt.2 h (hinterval.1 hz)).trans (if_pos (htimeout.2 h'))

/-- A valid timeout of less than a millisecond comes back as zero. -/
example : (Settings.mk (.ofSeconds 1) ⟨0, 999999, by decide⟩).given.settings.validate
    = .error .zeroLookupTimeout := by
  decide +kernel

end HostDialing

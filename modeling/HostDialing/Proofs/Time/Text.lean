import HostDialing.Proofs.Text.Numerals
import HostDialing.Time.Duration
import Mathlib.Data.List.DropRight
import Mathlib.Data.Rat.Cast.Order
import Mathlib.Tactic.FieldSimp
import Mathlib.Tactic.Ring

/-!
# Texts of durations

A duration is written as its whole units and the decimals of a unit (`Duration.chars_eq`), in the
largest unit that does not exceed it. No decimal is lost: the zeros before the first that counts are
kept, and only those behind the last are not written (`ofDigitChars_places`). So what the text
denotes is the duration itself (`Duration.nanosOf?_text`), and durations of one text are equal
(`Duration.text_inj`).
-/

namespace HostDialing

inductive TimeUnit where
  | seconds
  | milliseconds
  | microseconds
  | nanoseconds
deriving DecidableEq

namespace TimeUnit

/-- The decimals with which a nanosecond is written in a unit. -/
def width : TimeUnit → Nat
  | seconds => 9
  | milliseconds => 6
  | microseconds => 3
  | nanoseconds => 0

def nanos (u : TimeUnit) : Nat := 10 ^ u.width

def symbol : TimeUnit → List Char
  | seconds => ['s']
  | milliseconds => ['m', 's']
  | microseconds => ['µ', 's']
  | nanoseconds => ['n', 's']

def ofSymbol? (cs : List Char) : Option TimeUnit :=
  [seconds, milliseconds, microseconds, nanoseconds].find? (·.symbol = cs)

/-- The unit is the largest that does not exceed a number of nanoseconds. Zero, which all of them
exceed, is a number of nanoseconds. -/
def IsFor (u : TimeUnit) (n : Nat) : Prop :=
  u.nanos ≤ max n 1 ∧ ∀ v : TimeUnit, v.nanos ≤ max n 1 → v.nanos ≤ u.nanos

/-- The unit in which a number of nanoseconds is written. -/
def of (n : Nat) : TimeUnit :=
  if 1000000000 ≤ n then seconds
  else if 1000000 ≤ n then milliseconds
  else if 1000 ≤ n then microseconds
  else nanoseconds

theorem isFor_of (n : Nat) : (of n).IsFor n := by
  unfold of
  split_ifs
  all_goals
    refine ⟨?_, fun v hv => ?_⟩
    · simp only [nanos, width]
      omega
    · cases v <;> simp only [nanos, width] at hv ⊢ <;> omega

theorem ofSymbol?_symbol (u : TimeUnit) : ofSymbol? u.symbol = some u := by
  cases u <;> rfl

theorem nanos_pos (u : TimeUnit) : 0 < u.nanos := Nat.pow_pos (by decide)

theorem not_isDigit_symbol (u : TimeUnit) : ∀ c ∈ u.symbol.head?, c.isDigit = false := by
  cases u <;> rintro c ⟨⟩ <;> rfl

theorem symbol_ne_point (u : TimeUnit) (cs : List Char) : u.symbol ≠ '.' :: cs := by
  cases u <;> simp [symbol]

end TimeUnit

/-- Decimals behind their point. -/
def pointed : List Char → List Char
  | [] => []
  | places => '.' :: places

theorem mem_pointed {c : Char} {places : List Char} (h : c ∈ pointed places) :
    c = '.' ∨ c ∈ places := by
  rcases places with _ | ⟨d, places⟩
  · exact .inr h
  · exact List.mem_cons.1 h

/-- The nanoseconds that a text denotes which is a number of units, with or without decimals, and
the symbol of the unit. -/
def nanosOf? (cs : List Char) : Option ℚ :=
  match cs.span Char.isDigit with
  | (whole, '.' :: behind) => do
    let (places, symbol) := behind.span Char.isDigit
    let n ← digits? whole
    let part ← digits? places
    let u ← TimeUnit.ofSymbol? symbol
    some (((n : ℚ) + (part : ℚ) / 10 ^ places.length) * u.nanos)
  | (whole, symbol) => do
    let n ← digits? whole
    let u ← TimeUnit.ofSymbol? symbol
    some ((n : ℚ) * u.nanos)

theorem span_isDigit {digits rest : List Char} (hd : ∀ c ∈ digits, c.isDigit)
    (hrest : ∀ c ∈ rest.head?, c.isDigit = false) :
    (digits ++ rest).span Char.isDigit = (digits, rest) := by
  have hend : rest.takeWhile Char.isDigit = [] ∧ rest.dropWhile Char.isDigit = rest := by
    rcases rest with _ | ⟨c, cs⟩
    · simp
    · simp [hrest c rfl]
  rw [List.span_eq_takeWhile_dropWhile, List.takeWhile_append_of_pos hd,
    List.dropWhile_append_of_pos hd, hend.1, hend.2, List.append_nil]

/-- A whole number of units and decimals denote their sum. -/
theorem nanosOf?_eq (n : Nat) {places : List Char} (hplaces : ∀ c ∈ places, c.isDigit)
    (u : TimeUnit) :
    nanosOf? (decimal n ++ (pointed places ++ u.symbol))
      = some (((n : ℚ) + (Nat.ofDigitChars 10 places 0 : ℚ) / 10 ^ places.length) * u.nanos) := by
  have hwhole : ∀ c ∈ decimal n, c.isDigit := fun c => isDigit_of_mem_decimal
  rcases places with _ | ⟨d, places⟩
  · rw [pointed, List.nil_append, nanosOf?, span_isDigit hwhole u.not_isDigit_symbol]
    split
    · rename_i heq
      exact absurd (Prod.mk.inj heq).2 (u.symbol_ne_point _)
    · rename_i heq
      obtain ⟨rfl, rfl⟩ := Prod.mk.inj heq
      simp [digits?_decimal, TimeUnit.ofSymbol?_symbol]
  · have hread : digits? (d :: places) = some (Nat.ofDigitChars 10 (d :: places) 0) :=
      digits?_eq_some_iff.2 ⟨List.cons_ne_nil _ _, hplaces, rfl⟩
    have hpoint : ∀ c ∈ ('.' :: (d :: places ++ u.symbol)).head?, c.isDigit = false := by simp
    rw [pointed.eq_2 _ (List.cons_ne_nil _ _), List.cons_append, nanosOf?,
      span_isDigit hwhole hpoint]
    simp only [span_isDigit hplaces u.not_isDigit_symbol, digits?_decimal, hread,
      TimeUnit.ofSymbol?_symbol, Option.bind_eq_bind, Option.bind_some]

/-- The decimals of `part` units of which `10 ^ width` make one, with the zeros at the end. -/
def allPlaces (width part : Nat) : List Char :=
  List.replicate (width - (decimal part).length) '0' ++ decimal part

/-- The decimals that are written. -/
def places (width part : Nat) : List Char := (allPlaces width part).rdropWhile (· == '0')

theorem decimals_eq (width part : Nat) : decimals width part = pointed (places width part) := by
  simp only [decimals, places, allPlaces, List.rdropWhile]
  split
  · rename_i hnil
    rw [hnil]
    rfl
  · rename_i hkept
    obtain ⟨c, cs, hcs⟩ := List.exists_cons_of_ne_nil (mt List.reverse_eq_nil_iff.1 hkept)
    rw [hcs]
    rfl

theorem isDigit_of_mem_places {width part : Nat} {c : Char} (h : c ∈ places width part) :
    c.isDigit :=
  isDigit_of_mem_zeros ((List.rdropWhile_prefix _ _).subset h)

theorem getLast?_places (width part : Nat) : (places width part).getLast? ≠ some '0' := by
  intro h
  have hne : places width part ≠ [] := by
    intro hnil
    simp [hnil] at h
  rw [List.getLast?_eq_some_getLast hne, Option.some_inj] at h
  exact List.rdropWhile_last_not _ _ hne (beq_iff_eq.2 h)

theorem length_allPlaces {width part : Nat} (hwidth : 0 < width) (h : part < 10 ^ width) :
    (allPlaces width part).length = width := by
  have hlength : (decimal part).length ≤ width :=
    (Nat.length_toDigits_le_iff (by decide) hwidth).2 h
  rw [allPlaces, List.length_append, List.length_replicate]
  omega

/-- Nothing but zeros is left out. -/
theorem exists_allPlaces_eq (width part : Nat) :
    ∃ zeros, allPlaces width part = places width part ++ List.replicate zeros '0' := by
  refine ⟨((allPlaces width part).rtakeWhile (· == '0')).length, ?_⟩
  have hzeros : ∀ c ∈ (allPlaces width part).rtakeWhile (· == '0'), c = '0' := by
    intro c hc
    have := List.mem_rtakeWhile_imp hc
    exact beq_iff_eq.1 this
  rw [← List.eq_replicate_of_mem hzeros, places, List.rdropWhile_append_rtakeWhile]

/-- The decimals that are written denote the part of a unit. -/
theorem ofDigitChars_places {width part : Nat} (h : part < 10 ^ width) :
    (Nat.ofDigitChars 10 (places width part) 0 : ℚ) / 10 ^ (places width part).length
      = part / 10 ^ width := by
  rcases Nat.eq_zero_or_pos width with rfl | hwidth
  · obtain rfl : part = 0 := by omega
    have hnil : places 0 0 = [] := rfl
    simp [hnil]
  obtain ⟨zeros, hall⟩ := exists_allPlaces_eq width part
  have hlength : (places width part).length + zeros = width := by
    simpa [hall] using length_allPlaces hwidth h
  have hvalue : 10 ^ zeros * Nat.ofDigitChars 10 (places width part) 0 = part := by
    rw [← Nat.ofDigitChars_replicate_zero, ← Nat.ofDigitChars_append, ← hall]
    exact ofDigitChars_zeros _ _
  have hpow : (10 : ℚ) ^ width = 10 ^ (places width part).length * 10 ^ zeros := by
    rw [← pow_add, hlength]
  have hpart : (part : ℚ) = 10 ^ zeros * (Nat.ofDigitChars 10 (places width part) 0 : ℚ) := by
    exact_mod_cast hvalue.symm
  rw [hpow, hpart]
  field_simp

namespace Duration

theorem inUnits_eq (whole part : Nat) (u : TimeUnit) :
    inUnits whole u.width part u.symbol
      = decimal whole ++ (pointed (places u.width part) ++ u.symbol) := by
  rw [inUnits, decimals_eq, List.append_assoc]

theorem chars_eq (d : Duration) {u : TimeUnit} (hu : TimeUnit.of d.totalNanos = u) :
    d.chars = inUnits (d.totalNanos / u.nanos) u.width (d.totalNanos % u.nanos) u.symbol := by
  have hlt := d.nanos_lt
  have hzero : d.secs = 0 ↔ d.secs.toNat = 0 := UInt64.toNat_inj.symm
  have htotal : d.totalNanos = d.secs.toNat * 1000000000 + d.nanos := rfl
  subst hu
  by_cases hsecs : d.secs.toNat = 0
  · obtain htotal : d.totalNanos = d.nanos := by omega
    have hshort : ¬ 1000000000 ≤ d.nanos := by omega
    rw [chars, if_neg (not_not.2 (hzero.2 hsecs)), htotal, TimeUnit.of, if_neg hshort]
    split_ifs with hmillis hmicros
    · rfl
    · rfl
    · simp [TimeUnit.nanos, TimeUnit.width, TimeUnit.symbol, Nat.mod_one]
  · have hdiv : d.totalNanos / TimeUnit.nanos .seconds = d.secs.toNat := by
      simp only [TimeUnit.nanos, TimeUnit.width]
      omega
    have hmod : d.totalNanos % TimeUnit.nanos .seconds = d.nanos := by
      simp only [TimeUnit.nanos, TimeUnit.width]
      omega
    have hlong : 1000000000 ≤ d.totalNanos := by omega
    rw [chars, if_pos (mt hzero.1 hsecs), TimeUnit.of, if_pos hlong, hdiv, hmod]
    rfl

theorem exists_text_eq (d : Duration) : ∃ (u : TimeUnit) (places : List Char),
    u.IsFor d.totalNanos
      ∧ d.text.toList = decimal (d.totalNanos / u.nanos) ++ (pointed places ++ u.symbol)
      ∧ places.all Char.isDigit ∧ places.getLast? ≠ some '0' := by
  obtain ⟨u, hu⟩ : ∃ u, TimeUnit.of d.totalNanos = u := ⟨_, rfl⟩
  have hdigits : ∀ c ∈ places u.width (d.totalNanos % u.nanos), c.isDigit :=
    fun c => isDigit_of_mem_places
  refine ⟨u, places u.width (d.totalNanos % u.nanos), hu ▸ TimeUnit.isFor_of _, ?_,
    List.all_eq_true.2 hdigits, getLast?_places _ _⟩
  rw [text, String.toList_ofList, d.chars_eq hu, inUnits_eq]

/-- What the text of a duration denotes is the duration. -/
theorem nanosOf?_text (d : Duration) : nanosOf? d.text.toList = some (d.totalNanos : ℚ) := by
  obtain ⟨u, hu⟩ : ∃ u, TimeUnit.of d.totalNanos = u := ⟨_, rfl⟩
  have hpart : d.totalNanos % u.nanos < 10 ^ u.width := Nat.mod_lt _ u.nanos_pos
  have hunit : (u.nanos : ℚ) = 10 ^ u.width := by simp [TimeUnit.nanos]
  have htotal : (d.totalNanos : ℚ)
      = u.nanos * (d.totalNanos / u.nanos : ℕ) + (d.totalNanos % u.nanos : ℕ) := by
    exact_mod_cast (Nat.div_add_mod d.totalNanos u.nanos).symm
  rw [text, String.toList_ofList, d.chars_eq hu, inUnits_eq,
    nanosOf?_eq _ (fun c => isDigit_of_mem_places), ofDigitChars_places hpart, Option.some_inj]
  calc _ = u.nanos * ((d.totalNanos / u.nanos : ℕ) : ℚ) + (d.totalNanos % u.nanos : ℕ) := by
        rw [hunit]
        field_simp
    _ = d.totalNanos := htotal.symm

theorem text_inj {d e : Duration} : d.text = e.text ↔ d = e := by
  refine ⟨fun h => ?_, congrArg text⟩
  have hnanos := d.nanosOf?_text
  rw [h, e.nanosOf?_text, Option.some_inj] at hnanos
  exact eq_of_totalNanos_eq (by exact_mod_cast hnanos.symm)

end Duration

end HostDialing

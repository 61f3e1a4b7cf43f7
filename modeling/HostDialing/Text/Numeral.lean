/-!
# Numerals

Numbers in decimal, octal and hexadecimal, written without leading zeros and read with any number of
them. Reading is exact at every length: no numeral overflows, a bound is a condition of its own.
-/

namespace HostDialing

/-- The decimal numeral of a number. -/
def decimal (n : Nat) : List Char := Nat.toDigits 10 n

/-- The hexadecimal numeral of a number, in lower case. -/
def hexadecimal (n : Nat) : List Char := Nat.toDigits 16 n

/-- The number that one or more ASCII digits denote. -/
def digits? (cs : List Char) : Option Nat :=
  if cs ≠ [] ∧ cs.all Char.isDigit then some (Nat.ofDigitChars 10 cs 0) else none

/-- The number that digits after an optional plus sign denote. -/
def unsigned? : List Char → Option Nat
  | '+' :: cs => digits? cs
  | cs => digits? cs

/-- A numeral with an optional plus sign whose value fits in sixteen bits. -/
def port? (cs : List Char) : Option UInt16 :=
  (unsigned? cs).bind fun n => if h : n < UInt16.size then some (UInt16.ofNatLT n h) else none

/-- A numeral with an optional plus sign whose value fits in sixty-four bits. -/
def word? (cs : List Char) : Option UInt64 :=
  (unsigned? cs).bind fun n => if h : n < UInt64.size then some (UInt64.ofNatLT n h) else none

/-- The number that octal digits denote; no digits denote zero. -/
def octalDigits? (cs : List Char) : Option Nat :=
  if cs.all fun c => '0' ≤ c ∧ c ≤ '7' then some (Nat.ofDigitChars 8 cs 0) else none

/-- The value of a hexadecimal digit of either case. -/
def hexDigit? (c : Char) : Option Nat :=
  if c.isDigit then some (c.toNat - '0'.toNat)
  else if 'a' ≤ c ∧ c ≤ 'f' then some (c.toNat - 'a'.toNat + 10)
  else if 'A' ≤ c ∧ c ≤ 'F' then some (c.toNat - 'A'.toNat + 10)
  else none

/-- The number that hexadecimal digits denote; no digits denote zero. -/
def hexDigits? (cs : List Char) : Option Nat :=
  cs.foldlM (fun n c => (hexDigit? c).map (16 * n + ·)) 0

theorem digits?_decimal (n : Nat) : digits? (decimal n) = some n := by
  have h : ∀ c ∈ Nat.toDigits 10 n, c.isDigit := fun c hc =>
    Nat.isDigit_of_mem_toDigits (by decide) (by decide) hc
  simp only [digits?, decimal, ne_eq, Nat.toDigits_ne_nil, not_false_eq_true, true_and,
    List.all_eq_true, Nat.ofDigitChars_ten_toDigits]
  exact if_pos h

end HostDialing

import HostDialing.Decimal.Binary64
import HostDialing.Text.Numeral

/-!
# Shortest decimals

The shortest decimal that reads back as a given magnitude, and of those of one length the nearest.
Reading back means lying in the interval of numbers that round to the magnitude, whose ends belong
to it where the significand is even. If a decimal grid has a point in the interval, then one of
the two grid points around the magnitude itself is in it, so only those two are tried, grid after
grid.
-/

namespace HostDialing

/-- Digits and the power of ten of the last of them. -/
structure ShortDecimal where
  digits : Nat
  power : Int
deriving DecidableEq

/-- A quotient times ten to the power `-p`, as a quotient. -/
def scaledTen (num den : Nat) (p : Int) : Nat × Nat :=
  if p < 0 then (num * Nat.pow 10 (-p).toNat, den) else (num, den * Nat.pow 10 p.toNat)

/-- The power of ten of the first digit of a positive quotient, from an estimate that is at most
one too large. -/
def leadingPower (num den : Nat) : Int :=
  let guess : Int := if num ≥ den then (decimal (num / den)).length
    else 1 - ((decimal (den / num)).length : Int)
  let s := scaledTen num den guess
  if s.1 < s.2 then guess - 1 else guess

/-- Four times the ends of the interval that rounds to a magnitude, at the same denominator. -/
def Binary64.interval (b : Binary64) : Nat × Nat :=
  let m := 4 * b.significand
  (if b.significand = Nat.pow 2 52 ∧ b.exponent > -1074 then m - 1 else m - 2, m + 2)

/-- The decimal `n · 10 ^ p` reads back as the magnitude. -/
def Binary64.isReadFrom (b : Binary64) (n : Nat) (p : Int) : Bool :=
  let unit := scaled 1 4 (-b.exponent)
  let point := scaledTen n 1 (-p)
  let x := point.1 * unit.2
  let low := b.interval.1 * unit.1 * point.2
  let high := b.interval.2 * unit.1 * point.2
  if b.significand % 2 = 0 then low ≤ x && x ≤ high else low < x && x < high

/-- The decimal on the grid of `10 ^ p` that reads back as the magnitude. -/
def Binary64.onGrid? (b : Binary64) (p : Int) : Option ShortDecimal :=
  let s := scaledTen b.quotient.1 b.quotient.2 p
  let low := s.1 / s.2
  let near := roundQuotient s.1 s.2
  let far := if near = low then low + 1 else low
  if b.isReadFrom near p then some ⟨near, p⟩
  else if b.isReadFrom far p then some ⟨far, p⟩
  else none

/-- The shortest decimal of a positive magnitude. Seventeen digits always suffice. -/
def Binary64.shortest (b : Binary64) : ShortDecimal :=
  let lead := leadingPower b.quotient.1 b.quotient.2
  ((List.range 17).findSome? fun (n : Nat) => b.onGrid? (lead - (n : Int))).getD ⟨0, 0⟩

/-- How a decimal number is laid out: between these powers of ten of its first digit it is written
with all its places, otherwise with an exponent. -/
structure FloatLayout where
  leastPlain : Int
  greatestPlain : Int

/-- A positive decimal in a layout: with a decimal point in all its places, else with one digit
before the point and a signed exponent. -/
def FloatLayout.write (f : FloatLayout) (d : ShortDecimal) : List Char :=
  let digits := (((decimal d.digits).reverse).dropWhile (· == '0')).reverse
  let lead : Int := (decimal d.digits).length - 1 + d.power
  if f.leastPlain ≤ lead ∧ lead ≤ f.greatestPlain then
    if lead < 0 then '0' :: '.' :: List.replicate (-lead - 1).toNat '0' ++ digits
    else
      let whole := digits.take (lead.toNat + 1)
      let rest := digits.drop (lead.toNat + 1)
      whole ++ List.replicate (lead.toNat + 1 - whole.length) '0' ++ '.' ::
        (if rest = [] then ['0'] else rest)
  else
    digits.take 1 ++ (if digits.length > 1 then '.' :: digits.drop 1 else [])
      ++ ['e', if lead < 0 then '-' else '+'] ++ decimal lead.natAbs

end HostDialing

/-!
# Binary floating point

A magnitude of the sixty-four bit format: a significand of at most 53 bits at a power of two from
-1074 up. Each operation rounds its exact result to the nearest magnitude, halves to the even
significand, and has no value where the result is too large for the format.
-/

namespace HostDialing

structure Binary64 where
  significand : Nat
  exponent : Int
deriving DecidableEq

/-- The nearest whole number to a quotient; a half goes to the even one. -/
def roundQuotient (num den : Nat) : Nat :=
  let q := num / den
  let r := num % den
  if 2 * r > den || (2 * r == den && q % 2 == 1) then q + 1 else q

/-- A quotient times two to the power `-e`, as a quotient. -/
def scaled (num den : Nat) (e : Int) : Nat × Nat :=
  if e < 0 then (num * Nat.pow 2 (-e).toNat, den) else (num, den * Nat.pow 2 e.toNat)

/-- The power of two at which a positive quotient has 53 bits, or the least power there is. -/
def Binary64.exponentOf (num den : Nat) : Int :=
  let e : Int := (num.log2 : Int) - den.log2 - 52
  let s := scaled num den e
  max (if s.1 / s.2 < Nat.pow 2 52 then e - 1 else e) (-1074)

/-- The magnitude nearest to a quotient, if the format has one. -/
def Binary64.ofQuotient? (num den : Nat) : Option Binary64 :=
  if num = 0 then some ⟨0, -1074⟩
  else
    let e := Binary64.exponentOf num den
    let s := scaled num den e
    let m := roundQuotient s.1 s.2
    let b : Binary64 := if m = Nat.pow 2 53 then ⟨Nat.pow 2 52, e + 1⟩ else ⟨m, e⟩
    if b.exponent > 971 then none else some b

/-- Numerator and denominator of a magnitude. -/
def Binary64.quotient (b : Binary64) : Nat × Nat := scaled b.significand 1 (-b.exponent)

def Binary64.ofNat? (n : Nat) : Option Binary64 := ofQuotient? n 1

def Binary64.isZero (b : Binary64) : Bool := b.significand == 0

def Binary64.mul? (a b : Binary64) : Option Binary64 :=
  ofQuotient? (a.quotient.1 * b.quotient.1) (a.quotient.2 * b.quotient.2)

def Binary64.div? (a b : Binary64) : Option Binary64 :=
  ofQuotient? (a.quotient.1 * b.quotient.2) (a.quotient.2 * b.quotient.1)

end HostDialing

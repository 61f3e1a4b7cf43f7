import HostDialing.Json.Skip

/-!
# Reading a JSON number

A number without fraction and exponent is a whole number as long as it has the sixty-four bits of
one. Any other is a binary floating point number, made of a significand in sixty-four bits and a
power of ten: digits that no longer fit count in the power only.
-/

namespace HostDialing

/-- Takes digits as long as the number they make fits in sixty-four bits. -/
def takeWord (n : Nat) : List Char → Nat × List Char
  | [] => (n, [])
  | c :: cs =>
    let next := 10 * n + (c.toNat - '0'.toNat)
    if c.isDigit ∧ next < UInt64.size then takeWord next cs else (n, c :: cs)

def startsWithDigit : List Char → Bool
  | c :: _ => c.isDigit
  | [] => false

def powerOfTen? (n : Nat) : Option Binary64 := Binary64.ofNat? (Nat.pow 10 n)

/-- A significand times a power of ten. Each power up to the 308th is one magnitude; a lower power
than that is reached in two divisions, and there is no value beyond the largest magnitude. -/
def scientific? (significand : Nat) (power : Int) : Option Binary64 := do
  let b ← Binary64.ofNat? significand
  if b.isZero then some b
  else if power > 308 then none
  else if 0 ≤ power then b.mul? (← powerOfTen? power.toNat)
  else if -308 ≤ power then b.div? (← powerOfTen? (-power).toNat)
  else if -616 ≤ power then
    (← b.div? (← powerOfTen? 308)).div? (← powerOfTen? (-power - 308).toNat)
  else Binary64.ofNat? 0

/-- A floating point number, unless it is too large. -/
def floatFound (isNegative : Bool) (significand : Nat) (power : Int) :
    Except JsonFault JsonFound :=
  match scientific? significand power with
  | some b => .ok (.float isNegative b)
  | none => .error .malformed

/-- The largest power of ten that is written in an exponent. -/
def greatestPower : Nat := 2147483647

/-- Reads an exponent from behind its mark. -/
def readPower (isNegative : Bool) (significand : Nat) (power : Int) (cs : List Char) :
    Except JsonFault (JsonFound × List Char) := do
  let (down, cs) := match cs with
    | '-' :: cs => (true, cs)
    | '+' :: cs => (false, cs)
    | cs => (false, cs)
  let (digits, rest) := cs.span Char.isDigit
  if digits = [] then .error (if rest = [] then .ended else .malformed)
  else
    let n := Nat.ofDigitChars 10 digits 0
    if n > greatestPower then
      if significand ≠ 0 ∧ !down then .error .malformed
      else return (← floatFound isNegative 0 0, rest)
    else return (← floatFound isNegative significand (if down then power - n else power + n), rest)

/-- Reads an exponent if there is one. -/
def readMark (isNegative : Bool) (significand : Nat) (power : Int) (cs : List Char) :
    Except JsonFault (JsonFound × List Char) :=
  match cs with
  | c :: rest =>
    if isExponentMark c then readPower isNegative significand power rest
    else (floatFound isNegative significand power).map (·, cs)
  | [] => (floatFound isNegative significand power).map (·, cs)

/-- Reads a fraction from behind its point. -/
def readPlaces (isNegative : Bool) (significand : Nat) (power : Int) (cs : List Char) :
    Except JsonFault (JsonFound × List Char) :=
  let (n, rest) := takeWord significand cs
  let taken := cs.length - rest.length
  if taken = 0 ∧ !startsWithDigit rest then
    .error (if rest = [] then .ended else .malformed)
  else readMark isNegative n (power - taken) (rest.dropWhile Char.isDigit)

/-- A number that is neither followed by a fraction nor by an exponent. -/
def wholeFound (isNegative : Bool) (n : Nat) : Except JsonFault JsonFound :=
  if isNegative then
    if n = 0 ∨ n > 9223372036854775808 then floatFound true n 0 else .ok (.negative n)
  else .ok (.word (UInt64.ofNat n))

/-- Reads on behind digits of which `dropped` did not fit. -/
def readTail (isNegative : Bool) (n dropped : Nat) (cs : List Char) :
    Except JsonFault (JsonFound × List Char) :=
  match cs with
  | '.' :: rest => readPlaces isNegative n dropped rest
  | _ =>
    if dropped = 0 ∧ (cs.head?.map isExponentMark).getD false = false then
      (wholeFound isNegative n).map (·, cs)
    else readMark isNegative n dropped cs

/-- Reads a number from behind its sign. A zero stands alone before the point. -/
def readNumber (isNegative : Bool) (cs : List Char) : Except JsonFault (JsonFound × List Char) :=
  match cs with
  | [] => .error .ended
  | c :: rest =>
    if c = '0' then
      if startsWithDigit rest then .error .malformed else readTail isNegative 0 0 rest
    else if isOneToNine c then
      let (n, rest) := takeWord 0 cs
      let (dropped, rest) := rest.span Char.isDigit
      readTail isNegative n dropped.length rest
    else .error .malformed

end HostDialing

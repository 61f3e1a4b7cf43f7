import HostDialing.Text.Fields

/-!
# Punycode

Text of any characters in ASCII. The characters of ASCII come first, and a hyphen behind them if
there are any. The others are inserted in ascending order. For each of them a number says how far it
is from the one before, when for one character after another all places of the text are counted.
Such a distance has its low digits first, in base 36, and ends at a digit below a threshold, which
adapts to the distances so far.
-/

namespace HostDialing

/-- The digit with a value below 36. -/
def baseDigit (d : Nat) : Char :=
  if d < 26 then Char.ofNat ('a'.toNat + d) else Char.ofNat ('0'.toNat + (d - 26))

def baseDigit? (c : Char) : Option Nat :=
  if 'a' ≤ c ∧ c ≤ 'z' then some (c.toNat - 'a'.toNat)
  else if 'A' ≤ c ∧ c ≤ 'Z' then some (c.toNat - 'A'.toNat)
  else if c.isDigit then some (c.toNat - '0'.toNat + 26)
  else none

/-- The threshold of the digit at a place, where places count by 36. -/
def threshold (bias place : Nat) : Nat := max 1 (min 26 (place - bias))

theorem threshold_bounds (bias place : Nat) :
    1 ≤ threshold bias place ∧ threshold bias place ≤ 26 := by
  unfold threshold; omega

/-- The bias that suits distances of a size. -/
def biasOf (place distance : Nat) : Nat :=
  if distance > 455 then biasOf (place + 36) (distance / 35)
  else place + 36 * distance / (distance + 38)
termination_by distance

/-- The bias behind a distance; the first one is counted small. -/
def adaptedBias (distance size : Nat) (isFirst : Bool) : Nat :=
  let distance := if isFirst then distance / 700 else distance / 2
  biasOf 0 (distance + distance / size)

/-- A distance in digits from a place on. -/
def distanceDigits (bias place distance : Nat) : List Char :=
  let t := threshold bias place
  if distance < t then [baseDigit distance]
  else
    baseDigit (t + (distance - t) % (36 - t))
      :: distanceDigits bias (place + 36) ((distance - t) / (36 - t))
termination_by distance
decreasing_by
  have := threshold_bounds bias place
  refine Nat.lt_of_le_of_lt (Nat.div_le_self _ _) ?_
  omega

/-- How far the counting of characters and places has come, and what the next distance is written
with. -/
structure InsertionPoint where
  codePoint : Nat
  position : Nat
  bias : Nat
  isFirst : Bool

def InsertionPoint.start : InsertionPoint := ⟨0x80, 0, 72, true⟩

/-- The point behind an insertion at a distance, into a text that has the given size then. -/
def InsertionPoint.after (p : InsertionPoint) (distance size : Nat) : InsertionPoint where
  codePoint := p.codePoint + (p.position + distance) / size
  position := (p.position + distance) % size + 1
  bias := adaptedBias distance size p.isFirst
  isFirst := false

/-- The characters that are inserted, in order, each with its place in the text of that moment. -/
def insertions (cs : List Char) : List (Char × Nat) :=
  ((cs.filter fun c => 0x80 ≤ c.toNat).eraseDups.mergeSort (· ≤ ·)).flatMap fun c =>
    (cs.filter (· ≤ c)).zipIdx.filter (·.1 == c)

/-- The digits of insertions into a text that has the given size before them. -/
def encodeInsertions (p : InsertionPoint) (size : Nat) : List (Char × Nat) → List Char
  | [] => []
  | (c, position) :: rest =>
    let distance := (c.toNat - p.codePoint) * (size + 1) + position - p.position
    distanceDigits p.bias 36 distance
      ++ encodeInsertions (p.after distance (size + 1)) (size + 1) rest

def punycode (cs : List Char) : List Char :=
  let ascii := cs.filter fun c => c.toNat < 0x80
  ascii ++ (if ascii = [] then [] else ['-'])
    ++ encodeInsertions .start ascii.length (insertions cs)

/-- Reads insertions into a text. A distance has been read up to a value, the place and the weight
of its next digit. -/
def readInsertions (text : List Char) (p : InsertionPoint) (value place weight : Nat) :
    List Char → Option (List Char)
  | [] => if place = 36 then some text else none
  | c :: cs => do
    let digit ← baseDigit? c
    let value := value + digit * weight
    let t := threshold p.bias place
    if digit < t then
      let next := p.after value (text.length + 1)
      if next.codePoint.isValidChar then
        readInsertions (text.insertIdx (next.position - 1) (Char.ofNat next.codePoint)) next 0 36 1
          cs
      else none
    else readInsertions text p value (place + 36) (weight * (36 - t)) cs

/-- Reads punycode. The last hyphen ends the ASCII characters. -/
def ofPunycode? (cs : List Char) : Option (List Char) :=
  match splitLast '-' cs with
  | some ([], _) => none
  | some (ascii, digits) => readInsertions ascii .start 0 36 1 digits
  | none => readInsertions [] .start 0 36 1 cs

end HostDialing

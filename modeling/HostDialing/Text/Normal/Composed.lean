import HostDialing.Text.Normal.Order
import HostDialing.Text.Normal.Pair
import HostDialing.Text.Normal.Singleton

/-!
# Composed text

The one normal form of texts that look the same: every character is taken apart into its parts, the
marks are put in order, and what can be one character becomes one. Syllables of Hangul are taken
apart and put together by counting.
-/

namespace HostDialing

/-- What a character is taken apart into by one step. -/
def parts? (n : Nat) : Option (List Nat) :=
  match [singletonLetters, singletonIdeographs, singletonSupplement].findSome? (·.lookup n) with
  | some m => some [m]
  | none =>
    ([pairedLetters, pairedExtensions].findSome? (·.lookup n)).map fun p => [p.1, p.2]

/-- The letters of a syllable of Hangul: a leading consonant, a vowel, and a trailing consonant
unless there is none. -/
def hangulLetters? (n : Nat) : Option (List Nat) :=
  if 0xac00 ≤ n ∧ n < 0xac00 + 19 * 21 * 28 then
    let index := n - 0xac00
    let trailing := if index % 28 = 0 then [] else [0x11a7 + index % 28]
    some ([0x1100 + index / (21 * 28), 0x1161 + index / 28 % 21] ++ trailing)
  else none

/-- The parts of a character after some steps. -/
def partsAfter : Nat → Nat → List Nat
  | 0, n => [n]
  | steps + 1, n =>
    match parts? n with
    | some ns => ns.flatMap (partsAfter steps)
    | none => [n]

/-- The parts of a character that have no parts. No character takes more than three steps. -/
def decomposed (c : Char) : List Char :=
  ((hangulLetters? c.toNat).getD (partsAfter 3 c.toNat)).map Char.ofNat

/-- The paired characters that are never composed. -/
def excludedRanges : CharRanges :=
  [(0x344, 0x344), (0x958, 0x95f), (0x9dc, 0x9dd), (0x9df, 0x9df), (0xa33, 0xa33), (0xa36, 0xa36),
    (0xa59, 0xa5b), (0xa5e, 0xa5e), (0xb5c, 0xb5d), (0xf43, 0xf43), (0xf4d, 0xf4d), (0xf52, 0xf52),
    (0xf57, 0xf57), (0xf5c, 0xf5c), (0xf69, 0xf69), (0xf73, 0xf73), (0xf75, 0xf76), (0xf78, 0xf78),
    (0xf81, 0xf81), (0xf93, 0xf93), (0xf9d, 0xf9d), (0xfa2, 0xfa2), (0xfa7, 0xfa7), (0xfac, 0xfac),
    (0xfb9, 0xfb9), (0x2adc, 0x2adc), (0xfb1d, 0xfb1d), (0xfb1f, 0xfb1f), (0xfb2a, 0xfb36),
    (0xfb38, 0xfb3c), (0xfb3e, 0xfb3e), (0xfb40, 0xfb41), (0xfb43, 0xfb44), (0xfb46, 0xfb4e),
    (0x1d15e, 0x1d164), (0x1d1bb, 0x1d1c0)]

/-- The syllable of two letters of Hangul, or of a syllable without a trailing consonant and one. -/
def hangulSyllable? (a b : Nat) : Option Nat :=
  if 0x1100 ≤ a ∧ a < 0x1100 + 19 ∧ 0x1161 ≤ b ∧ b < 0x1161 + 21 then
    some (0xac00 + ((a - 0x1100) * 21 + (b - 0x1161)) * 28)
  else if 0xac00 ≤ a ∧ a < 0xac00 + 19 * 21 * 28 ∧ (a - 0xac00) % 28 = 0
      ∧ 0x11a7 < b ∧ b < 0x11a7 + 28 then some (a + (b - 0x11a7))
  else none

/-- The character that two are composed to. -/
def composite? (a b : Char) : Option Char :=
  match hangulSyllable? a.toNat b.toNat with
  | some n => some (Char.ofNat n)
  | none =>
    let found := [pairedLetters, pairedExtensions].findSome? fun pairs =>
      pairs.find? fun p => p.2.1 == a.toNat && p.2.2 == b.toNat
    (found.map fun p => Char.ofNat p.1).filter fun c => !excludedRanges.has c

/-- Composes a character with what follows it in order. Marks that were passed over, the last of
them first, block those of their class. -/
def composeFrom (c : Char) (passed : List Char) : List Char → List Char
  | [] => c :: passed.reverse
  | d :: ds =>
    let isFree := passed.all fun p => combiningClass p < combiningClass d
    match if isFree then composite? c d else none with
    | some e => composeFrom e passed ds
    | none =>
      if combiningClass d = 0 then c :: passed.reverse ++ composeFrom d [] ds
      else composeFrom c (d :: passed) ds

/-- The normal form of a text. -/
def normalForm (cs : List Char) : List Char :=
  match ordered (cs.flatMap decomposed) with
  | [] => []
  | c :: cs => composeFrom c [] cs

end HostDialing

import HostDialing.Domain.Mapped.EastAsian
import HostDialing.Domain.Mapped.Presentation
import HostDialing.Domain.Mapped.Runs
import HostDialing.Domain.Mapped.Scripts
import HostDialing.Domain.Mapped.Supplement
import HostDialing.Domain.Mapped.Symbols
import HostDialing.Text.Unprintable

/-!
# Characters of domain names

What a character of a domain name counts as: itself, a text that stands for it, or nothing at all.
So names that differ only in case, width or the like are one name. Characters that canonical
composition would change are left to it.
-/

namespace HostDialing

def mappedTexts : List MappedTexts :=
  [mappedScripts, mappedSymbols, mappedRadicals, mappedSquares, mappedLigatures,
    mappedArabicLigatures, mappedForms, mappedSupplement]

def mappedText? (c : Char) : Option (List Char) :=
  match mappedTexts.findSome? (·.lookup c.toNat) with
  | some text => some (text.map Char.ofNat)
  | none => (mappedRuns.findSome? (·.get? c.toNat)).map fun n => [Char.ofNat n]

/-- The characters that do not count in a domain name. -/
def ignoredRanges : CharRanges :=
  [(0xad, 0xad), (0x34f, 0x34f), (0x115f, 0x1160), (0x17b4, 0x17b5), (0x180b, 0x180f),
    (0x200b, 0x200b), (0x2060, 0x2064), (0x206a, 0x206f), (0x3164, 0x3164), (0xfe00, 0xfe0f),
    (0xfeff, 0xfeff), (0xffa0, 0xffa0), (0x1bca0, 0x1bca3), (0x1d173, 0x1d17a), (0xe0100, 0xe01ef)]

/-- Printing characters that no domain name holds. -/
def disallowedRanges : CharRanges :=
  [(0x2024, 0x2026), (0x2488, 0x249b), (0x2ff0, 0x2fff), (0x31ef, 0x31ef), (0x33c2, 0x33c2),
    (0x33c7, 0x33c7), (0x33d8, 0x33d8), (0xfe12, 0xfe12), (0xfe19, 0xfe19), (0xfe30, 0xfe30),
    (0xfe52, 0xfe52), (0xfffc, 0xfffd), (0x1f100, 0x1f100)]

/-- No domain name holds the character. Of those that do not print, ASCII's and the two joiners may
stand in one. -/
def isDisallowed (c : Char) : Bool :=
  disallowedRanges.has c
    || (isUnprintable c && 0x80 ≤ c.toNat && c != '\u200c' && c != '\u200d')

/-- What a character counts as, where a domain name may hold it. -/
def mapped? (c : Char) : Option (List Char) :=
  if ignoredRanges.has c then some []
  else match mappedText? c with
    | some text => some text
    | none => if isDisallowed c then none else some [c]

end HostDialing

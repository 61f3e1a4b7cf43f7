/-!
# Mapped characters

Two shapes of tables: characters with the text that stands for each of them in domain names, and
runs of characters that are all mapped at one distance, as an alphabet is from its small letters.
-/

namespace HostDialing

/-- Code points, each with those of the text that it is mapped to. -/
abbrev MappedTexts := List (Nat × List Nat)

/-- Code points at equal steps, and the one that the first of them is mapped to. -/
structure MappedRun where
  first : Nat
  count : Nat
  step : Nat
  target : Nat

/-- What a run maps a code point to. -/
def MappedRun.get? (r : MappedRun) (n : Nat) : Option Nat :=
  let offset := n - r.first
  if r.first ≤ n ∧ offset % r.step = 0 ∧ offset / r.step < r.count then some (r.target + offset)
  else none

end HostDialing

/-!
# Ranges of characters

Classes of characters as the runs of code points that they are made of. The tables of this library
hold the characters of the Unicode standard, version 17.
-/

namespace HostDialing

/-- First and last code point of each run, in ascending order. -/
abbrev CharRanges := List (Nat × Nat)

/-- The character lies in one of the runs. -/
def CharRanges.has (ranges : CharRanges) (c : Char) : Bool :=
  ranges.any fun r => r.1 ≤ c.toNat && c.toNat ≤ r.2

/-- First and last code point of each run, and what its characters have in common. -/
abbrev CharRuns (α : Type) := List (Nat × Nat × α)

/-- What a character has by the run that it lies in, or by default. -/
def CharRuns.getD {α : Type} (runs : CharRuns α) (c : Char) (default : α) : α :=
  ((runs.find? fun r => r.1 ≤ c.toNat && c.toNat ≤ r.2.1).map (·.2.2)).getD default

end HostDialing

import HostDialing.Time.Duration

/-!
# Instants

Points of a clock that counts nanoseconds from its own start and holds a signed sixty-four bit
number of seconds. An instant past its end is one that never comes. So a deadline may lie anywhere,
while the sum of an instant and a duration may be more than the clock can hold.
-/

namespace HostDialing

/-- A point of the clock, in nanoseconds from its start. -/
structure Instant where
  nanos : Nat
deriving DecidableEq

/-- The first nanosecond that the clock cannot hold. -/
def Instant.limit : Nat := 9223372036854775808 * 1000000000

/-- The instant a duration later, if the clock can hold it. -/
def Instant.add? (t : Instant) (d : Duration) : Option Instant :=
  let n := t.nanos + d.totalNanos
  if n < Instant.limit then some ⟨n⟩ else none

/-- The deadline a duration ahead. -/
def Instant.deadline (t : Instant) (d : Duration) : Instant := ⟨t.nanos + d.totalNanos⟩

instance : LE Instant := ⟨fun t u => t.nanos ≤ u.nanos⟩

instance : LT Instant := ⟨fun t u => t.nanos < u.nanos⟩

instance (t u : Instant) : Decidable (t ≤ u) := inferInstanceAs (Decidable (t.nanos ≤ u.nanos))

instance (t u : Instant) : Decidable (t < u) := inferInstanceAs (Decidable (t.nanos < u.nanos))

end HostDialing

import HostDialing.Time.Instant

/-!
# Tickers

A ticker is due once in a period. A tick that is taken at most five milliseconds late leaves the
beat as it is; after one that is taken later the beat counts anew from there, so ticks that were
missed are not made up for.
-/

namespace HostDialing

structure Ticker where
  period : Duration
  next : Instant
deriving DecidableEq

/-- How late a tick may be without shifting the beat, in nanoseconds. -/
def tickTolerance : Nat := 5000000

/-- A ticker whose first tick is a period away, if the clock reaches that far. -/
def Ticker.start? (now : Instant) (period : Duration) : Option Ticker :=
  (now.add? period).map fun next => ⟨period, next⟩

def Ticker.isDue (t : Ticker) (now : Instant) : Bool := t.next ≤ now

/-- The ticker after a tick that is taken now. -/
def Ticker.fire (t : Ticker) (now : Instant) : Ticker where
  period := t.period
  next := (if now.nanos ≤ t.next.nanos + tickTolerance then t.next else now).deadline t.period

end HostDialing

import HostDialing.Cache.Entries
import HostDialing.Cache.Resolution

/-!
# Refresh passes

A pass asks for every host that was known when it began, at most eight at a time: where one
question ends the next begins. What a question brings replaces the addresses of its host, if the
host is still known by then; where it brings nothing the old addresses stay.
-/

namespace HostDialing

/-- How many questions of a pass are under way at most. -/
def passWindow : Nat := 8

structure Pass where
  unstarted : List String
  inFlight : List Flight
  /-- The hosts that are done, and whether their addresses were replaced. -/
  done : List (String × Bool)

def Pass.over (hosts : List String) : Pass := ⟨hosts, [], []⟩

def Pass.isDone (p : Pass) : Bool := p.unstarted.isEmpty && p.inFlight.isEmpty

/-- How many hosts have new addresses. -/
def Pass.replaced (p : Pass) : Nat := p.done.countP Prod.snd

def Pass.find? (p : Pass) (call : Nat) : Option Flight := p.inFlight.find? (·.call == call)

/-- The questions that a pass begins now, numbered from `call` up. -/
def Pass.starting (p : Pass) (now : Instant) (limit : Duration) (call : Nat) : List Flight :=
  ((p.unstarted.take (passWindow - p.inFlight.length)).zipIdx call).map fun (host, n) =>
    Flight.start n host now limit

/-- Fills the window. -/
def Pass.fill (p : Pass) (now : Instant) (limit : Duration) (call : Nat) : Pass where
  unstarted := p.unstarted.drop (passWindow - p.inFlight.length)
  inFlight := p.inFlight ++ p.starting now limit call
  done := p.done

/-- Ends a question. -/
def Pass.finish (p : Pass) (f : Flight) (isReplaced : Bool) : Pass where
  unstarted := p.unstarted
  inFlight := p.inFlight.filter (·.call != f.call)
  done := p.done ++ [(f.host, isReplaced)]

/-- What the end of a question does to the entries, and whether it replaced addresses. -/
def Entries.refreshed (e : Entries) (host : String) :
    Except ResolutionError (List String) → Entries × Bool
  | .ok addresses =>
    if (e.get? host).isSome then (e.replace host addresses, true) else (e, false)
  | .error _ => (e, false)

end HostDialing

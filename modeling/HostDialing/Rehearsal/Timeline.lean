import HostDialing.Cache.Step
import HostDialing.Rehearsal.Script

/-!
# The timeline of a rehearsal

Time passes only while everything waits. What a resolver or a connector says without delay is
there before anything else happens; what it says later stands on an agenda with its time, and so
does the next tick of the background task. What is due first happens first, and of things due at
one time those that the task in the foreground waits for, then the ones that were put on the
agenda first. A deadline is put there after the answer it limits.
-/

namespace HostDialing

/-- Something that is going to happen. -/
inductive DueEvent where
  | answer (call : Nat) (answer : Answer) (cancels : Option Token)
  | deadline (call : Nat)
  | outcome (task : Nat) (outcome : Except IoError String) (cancels : Option Token)
  | cancel (token : Token)
  | tick

/-- What an event does to a cache. A tick takes the known hosts in the order of the entries. -/
def DueEvent.event (s : CacheState) : DueEvent → CacheEvent String
  | answer call a cancels => .answer call (some a) cancels
  | deadline call => .answer call none none
  | outcome task o cancels => .outcome task (some o) cancels
  | cancel token => .cancel token
  | tick => .tick s.entries.hosts

/-- What has been seen of a cache from outside. -/
structure Observations where
  calls : List (Instant × String)
  dials : List (Instant × String × String)
  counts : List Nat
  warnings : List String

def Observations.none : Observations := ⟨[], [], [], []⟩

/-- A text comes no later than another in the order of code points. -/
def textLe (a b : String) : Bool := !decide (b < a)

/-- The calls of the resolver by time, then by host. -/
def Observations.sortedCalls (o : Observations) : List (Instant × String) :=
  o.calls.mergeSort fun a b => a.1 < b.1 || (a.1 == b.1 && textLe a.2 b.2)

/-- How often the resolver was called at each time. -/
def Observations.callCounts (o : Observations) : List (Instant × Nat) :=
  ((o.calls.map Prod.fst).mergeSort (· ≤ ·)).eraseDups.map fun i =>
    (i, o.calls.countP (·.1 == i))

/-- The calls of the connector by time, network and candidate. -/
def Observations.sortedDials (o : Observations) : List (Instant × String × String) :=
  o.dials.mergeSort fun a b =>
    a.1 < b.1 || (a.1 == b.1 && (a.2.1 < b.2.1 || (a.2.1 == b.2.1 && textLe a.2.2 b.2.2)))

structure Timeline where
  cache : CacheState
  resolver : Script ResolverResponse
  connector : Script ConnectorResponse
  /-- The error that every call of the resolver gives. -/
  failure : Option IoError
  /-- What happens at once. -/
  ready : List DueEvent
  agenda : List (Instant × DueEvent)
  foreground : Option Nat
  /-- The tasks whose order of candidates was injected. -/
  injected : List Nat
  finished : List (Nat × Instant × TaskResult String)
  seen : Observations

def Instant.after (t : Instant) (millis : Nat) : Instant := ⟨t.nanos + millis * 1000000⟩

/-- Puts an event on an agenda, behind all that are due no later. -/
def insertDue (due : Instant) (e : DueEvent) :
    List (Instant × DueEvent) → List (Instant × DueEvent)
  | [] => [(due, e)]
  | d :: rest => if d.1 ≤ due then d :: insertDue due e rest else (due, e) :: d :: rest

def Timeline.schedule (t : Timeline) (due : Instant) (e : DueEvent) : Timeline :=
  { t with agenda := insertDue due e t.agenda }

/-- Lets something happen after a delay, or at once. -/
def Timeline.after (t : Timeline) (millis : Nat) (e : DueEvent) : Timeline :=
  if millis = 0 then { t with ready := t.ready ++ [e] }
  else t.schedule (t.cache.now.after millis) e

/-- The response to a call of the resolver. While everything fails the script stays as it is. -/
def Timeline.takeResolver (t : Timeline) (host : String) : ResolverResponse × Timeline :=
  match t.failure with
  | some e => (⟨.error e, 0, false, none⟩, t)
  | none =>
    let (response, rest) := t.resolver.take host
    (response.getD (.unknown host), { t with resolver := rest })

/-- Calls the resolver. -/
def Timeline.callResolver (t : Timeline) (f : Flight) : Timeline :=
  let now := t.cache.now
  let (r, t) := t.takeResolver f.host
  let t := { t with seen := { t.seen with calls := t.seen.calls ++ [(now, f.host)] } }
  let t := if r.hangs then t else t.after r.delay (.answer f.call r.answer r.cancels)
  t.schedule f.deadline (.deadline f.call)

/-- Calls the connector. -/
def Timeline.callConnector (t : Timeline) (task : Nat) (network candidate : String) : Timeline :=
  let now := t.cache.now
  let (response, rest) := t.connector.take candidate
  let r := response.getD .plain
  let t := { t with
    connector := rest
    seen := { t.seen with dials := t.seen.dials ++ [(now, network, candidate)] } }
  let t := match r.cancels with
    | some (token, .call) => t.after 0 (.cancel token)
    | _ => t
  let cancels := match r.cancels with
    | some (token, .coming) => some token
    | _ => none
  if r.hangs then t
  else t.after r.delay (.outcome task (r.outcome.getD (.ok candidate)) cancels)

/-- Lets an effect of the cache have its way. -/
def Timeline.observe (t : Timeline) : CacheEffect String → Timeline
  | .resolve flight => t.callResolver flight
  | .order task count =>
    if t.injected.contains task then
      { t with seen := { t.seen with counts := t.seen.counts ++ [count] } }
    else t
  | .connect task network candidate => t.callConnector task network candidate
  | .learned _ _ => t
  | .renewed _ _ => t
  | .warned e =>
    { t with seen := { t.seen with warnings := t.seen.warnings ++ [refreshWarning e] } }
  | .finished task result =>
    { t with finished := t.finished ++ [(task, t.cache.now, result)] }

/-- The tick that a background task waits for. -/
def Background.nextTick? : Background → Option Instant
  | waiting ticker => some ticker.next
  | _ => none

/-- Puts the next tick on the agenda, unless the background task already waited for it. -/
def Timeline.awaitTick (t : Timeline) (before : Background) : Timeline :=
  match t.cache.background.nextTick? with
  | none => t
  | some next =>
    if before.nextTick? = some next then t
    else if next ≤ t.cache.now then { t with ready := t.ready ++ [.tick] }
    else t.schedule next .tick

/-- Lets an event happen to the cache. -/
def Timeline.perform (t : Timeline) (e : CacheEvent String) : Timeline :=
  let (cache, effects) := t.cache.step e
  (effects.foldl Timeline.observe { t with cache := cache }).awaitTick t.cache.background

/-- The event by which a dial that waits learns that its token is cancelled. -/
def Task.wake? (s : CacheState) (id : Nat) : Task → Option (CacheEvent String)
  | resolving goal flight =>
    if (goal.cancelled? s).isSome then some (.answer flight.call none none) else none
  | attempting request _ =>
    if s.isCancelled request.token then some (.outcome id none none) else none
  | refreshing _ => none

/-- Lets an event happen, and every dial look at its token that it cancelled. -/
def Timeline.happen (t : Timeline) (e : CacheEvent String) : Timeline :=
  let t := t.perform e
  (t.cache.tasks.filterMap fun entry => entry.2.wake? t.cache entry.1).foldl Timeline.perform t

/-- The number of the task that an answer belongs to. -/
def Owner.task? : Owner → Option Nat
  | lookup task _ _ => some task
  | refresh task _ _ => some task
  | background _ _ _ => none

/-- The task that waits for an event. -/
def DueEvent.task? (s : CacheState) : DueEvent → Option Nat
  | answer call _ _ => (s.owner? call).bind Owner.task?
  | deadline call => (s.owner? call).bind Owner.task?
  | outcome task _ _ => some task
  | cancel _ => none
  | tick => none

/-- The place on the agenda of the entry that comes first: of those that are due first, one that
the foreground waits for, else the first. -/
def Timeline.firstPlace (t : Timeline) : Nat :=
  match t.agenda with
  | [] => 0
  | d :: _ =>
    (t.agenda.findIdx? fun e =>
      e.1 == d.1 && t.foreground.isSome && e.2.task? t.cache == t.foreground).getD 0

/-- Lets time pass up to an instant. -/
def Timeline.passTo (t : Timeline) (i : Instant) : Timeline :=
  t.perform (.elapse (i.nanos - t.cache.now.nanos))

/-- Lets the next thing happen if it is due no later than the limit. -/
def Timeline.advance? (t : Timeline) (limit : Option Instant) : Option Timeline :=
  let place := t.firstPlace
  match t.ready, t.agenda[place]? with
  | e :: rest, _ => some ({ t with ready := rest }.happen (e.event t.cache))
  | [], none => none
  | [], some (due, e) =>
    if (limit.map fun l => decide (due ≤ l)).getD true then
      let t := { t.passTo due with agenda := t.agenda.eraseIdx place }
      some (t.happen (e.event t.cache))
    else none

/-- Lets things happen that are due by the limit, until a condition holds. -/
def Timeline.run (limit : Option Instant) (isOver : Timeline → Bool) : Nat → Timeline → Timeline
  | 0, t => t
  | room + 1, t =>
    if isOver t then t
    else match t.advance? limit with
      | some t => run limit isOver room t
      | none => t

/-- A timeline on which nothing has happened yet. -/
def Timeline.begin (cache : CacheState) (resolver : Script ResolverResponse)
    (connector : Script ConnectorResponse) : Timeline :=
  Timeline.awaitTick
    { cache, resolver, connector, failure := none, ready := [], agenda := [], foreground := none,
      injected := [], finished := [], seen := .none } .ended

/-- More things than any rehearsal has. -/
def timelineRoom : Nat := 1000000000

/-- Does all that is due by now. -/
def Timeline.settle (t : Timeline) : Timeline :=
  t.run (some t.cache.now) (fun _ => false) timelineRoom

/-- Waits until an instant. -/
def Timeline.sleepTo (t : Timeline) (i : Instant) : Timeline :=
  (t.run (some i) (fun _ => false) timelineRoom).passTo i

def Timeline.result? (t : Timeline) (task : Nat) : Option (Instant × TaskResult String) :=
  t.finished.lookup task

/-- Waits until a task has ended. -/
def Timeline.await (t : Timeline) (task : Nat) : Timeline :=
  t.run none (fun t => (t.result? task).isSome) timelineRoom

/-- Waits in the foreground until a task has ended. -/
def Timeline.awaitFirst (t : Timeline) (task : Nat) : Timeline :=
  { { t with foreground := some task }.await task with foreground := none }

end HostDialing

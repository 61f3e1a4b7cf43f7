import HostDialing.Ip.Print
import HostDialing.Rehearsal.Timeline

/-!
# Rehearsals

A rehearsal makes a cache and takes it through steps, each of which has a result and a report of
what was seen during it. Before a report is made everything that is due at that instant is done.
-/

namespace HostDialing

/-- What a step comes to. -/
inductive StepResult where
  | nothing
  | task (result : TaskResult String)
  | number (n : Nat)
  | flag (b : Bool)
  | text (s : String)
  | settings (s : Settings)
  | joined (ended : Instant) (result : TaskResult String)
  | aborted
  | noTask
  | noCache
  | unknown

structure StepReport where
  time : Instant
  result : StepResult
  seen : Observations
  /-- The known hosts, as long as the cache is kept. -/
  hosts : Option (List String)

/-- A task in the background: its number, and the order it was given. -/
structure Spawned where
  task : Nat
  order : Option OrderScript

structure Session where
  timeline : Timeline
  spawned : List (String × Spawned)
  aborted : List Nat
  /-- How many tokens and random orders were made for single dials. -/
  serial : Nat
  isKept : Bool

/-- The result of a task under an order: the sockets of a random one go by their texts. -/
def TaskResult.under (order : Option OrderScript) : TaskResult String → TaskResult String
  | sockets (.ok l) =>
    match order with
    | some .random => .sockets (.ok (l.mergeSort fun a b => textLe a.text b.text))
    | _ => .sockets (.ok l)
  | result => result

/-- The request that a scripted one stands for. -/
def Session.request (s : Session) : ScriptedRequest → Request
  | .lookup host => .lookup host
  | .prewarm host => .prewarm host
  | .refresh => .refresh s.timeline.cache.entries.hosts
  | .sockets host order => .sockets host (order.order ⟨s.serial.toUInt64⟩)
  | .dial network addr order token _ =>
    let token := match token with
      | some name => Token.named name
      | none => .single s.serial
    .dial ⟨network, addr, order.order ⟨s.serial.toUInt64⟩, token⟩

/-- The timer that cancels a dial's token. -/
def Session.timer? (s : Session) : ScriptedRequest → Option (Instant × Token)
  | .dial _ _ _ token (some millis) =>
    some (s.timeline.cache.now.after millis, (token.map Token.named).getD (.single s.serial))
  | _ => none

/-- Starts a request; the second part is the number of its task. -/
def Session.start (s : Session) (r : ScriptedRequest) : Session × Nat :=
  let task := s.timeline.cache.nextTask
  let isInjected := (r.order?.map OrderScript.isInjected).getD false
  let t := if isInjected then { s.timeline with injected := task :: s.timeline.injected }
    else s.timeline
  let t := match s.timer? r with
    | some (due, token) => t.schedule due (.cancel token)
    | none => t
  ({ s with timeline := t.happen (.start (s.request r)), serial := s.serial + 1 }, task)

def Session.over (s : Session) (t : Timeline) : Session := { s with timeline := t }

/-- Waits for a task that was spawned and forgets it. -/
def Session.join (s : Session) (id : String) : Session × StepResult :=
  match s.spawned.lookup id with
  | none => (s, .noTask)
  | some spawned =>
    let s := { s with spawned := s.spawned.filter (·.1 != id) }
    if s.aborted.contains spawned.task then (s, .aborted)
    else
      let t := s.timeline.await spawned.task
      match t.result? spawned.task with
      | some (ended, result) => (s.over t, .joined ended (result.under spawned.order))
      | none => (s.over t, .nothing)

def Session.isFinished (s : Session) (id : String) : StepResult :=
  match s.spawned.lookup id with
  | none => .nothing
  | some spawned =>
    .flag (s.aborted.contains spawned.task || (s.timeline.result? spawned.task).isSome)

def Session.abort (s : Session) (id : String) : Session :=
  match s.spawned.lookup id with
  | none => s
  | some spawned =>
    if (s.timeline.result? spawned.task).isSome then s
    else { s with
      timeline := s.timeline.happen (.abort spawned.task)
      aborted := spawned.task :: s.aborted }

def Session.happen (s : Session) (e : CacheEvent String) : Session × StepResult :=
  (s.over (s.timeline.happen e), .nothing)

/-- Takes a step. -/
def Session.act (s : Session) (step : ScriptStep) : Session × StepResult :=
  let t := s.timeline
  if step.needsCache && !s.isKept then (s, .noCache)
  else match step with
    | .request r =>
      let (s, task) := s.start r
      let t := s.timeline.awaitFirst task
      match t.result? task with
      | some (_, result) => (s.over t, .task (result.under r.order?))
      | none => (s.over t, .nothing)
    | .cancel token => s.happen (.cancel (.named token))
    | .clear => s.happen .clear
    | .stop => s.happen .stop
    | .sleep millis => (s.over (t.sleepTo (t.cache.now.after millis)), .nothing)
    | .size => (s, .number t.cache.entries.size)
    | .isEmpty => (s, .flag (t.cache.entries.size == 0))
    | .isStopped => (s, .flag t.cache.isStopped)
    | .text => (s, .text t.cache.text)
    | .settings => (s, .settings t.cache.settings)
    | .setHost host responses =>
      (s.over { t with resolver := t.resolver.set host responses }, .nothing)
    | .setConnector addr responses =>
      (s.over { t with connector := t.connector.set addr responses }, .nothing)
    | .failAll error => (s.over { t with failure := error }, .nothing)
    | .spawn id r =>
      let (s, task) := s.start r
      ({ s with spawned := (id, ⟨task, r.order?⟩) :: s.spawned.filter (·.1 != id) }, .nothing)
    | .join id => s.join id
    | .isFinished id => (s, s.isFinished id)
    | .abort id => (s.abort id, .nothing)
    | .drop =>
      let (s, result) := s.happen .release
      ({ s with isKept := false }, result)
    | .unknown => (s, .unknown)

/-- Takes a step, does all that is due, and reports. -/
def Session.report (s : Session) (step : ScriptStep) : Session × StepReport :=
  let (s, result) := s.act step
  let t := s.timeline.settle
  ({ s with timeline := { t with seen := .none } },
    { time := t.cache.now
      result := result
      seen := t.seen
      hosts := if s.isKept then some t.cache.entries.hosts else none })

def Session.reports (s : Session) : List ScriptStep → List StepReport
  | [] => []
  | step :: steps =>
    let (s, report) := s.report step
    report :: s.reports steps

/-- A rehearsal: the settings of a cache, what resolver and connector say, and the steps. -/
structure Rehearsal where
  settings : Settings
  resolver : Script ResolverResponse
  connector : Script ConnectorResponse
  steps : List ScriptStep

/-- The reports of a rehearsal's steps, if its cache can be made. -/
def Rehearsal.run (r : Rehearsal) : Except SettingsError (List StepReport) := do
  let cache ← CacheState.open? r.settings true ⟨0⟩
  return Session.reports ⟨.begin cache r.resolver r.connector, [], [], 0, true⟩ r.steps

end HostDialing

import HostDialing.Proofs.Cache.PassAlone

/-!
# One operation after another, step by step and at once

An operation that ends before the next begins comes to what it comes to at once (`Operation.now`):
whatever the order in which the questions of a pass end, and whatever time passes, its result, the
entries it leaves and the calls of the resolver are those (`Peers.turn_eq_now`), if the answers are
those of a resolver that goes by the host and by how often it was asked for it, and the outcomes
those of a connector that goes by its arguments.
-/

namespace HostDialing

variable {σ γ : Type}

/-- What can be done with a cache; a `pass` is one of the background task. -/
inductive Operation where
  | lookup (host : String)
  | prewarm (host : String)
  | sockets (host : String) (order : CandidateOrder)
  | dial (network addr : String) (order : CandidateOrder)
  | refresh
  | pass
  | clear

/-- What an operation ends with, if anything, and what it leaves. -/
def Operation.now (resolve : Resolver σ) (connect : Connector σ γ) (limit : Duration) :
    Operation → Surroundings σ → Option (TaskResult γ) × Surroundings σ
  | lookup host, s =>
    let (result, s) := lookupNow resolve limit host s
    (some (.addresses result), s)
  | prewarm host, s =>
    let (result, s) := prewarmNow resolve limit host s
    (some (.warmed result), s)
  | sockets host order, s =>
    let (result, s) := socketsNow resolve limit order host s
    (some (.sockets result), s)
  | dial network addr order, s =>
    let (result, s) := dialNow resolve connect limit order network addr s
    (some (.dialed result), s)
  | refresh, s =>
    let (n, s) := refreshNow resolve limit s
    (some (.refreshed n), s)
  | pass, s => (none, (refreshNow resolve limit s).2)
  | clear, s => (none, ⟨.empty, s.world⟩)

/-- The operation that an event begins. A stop is none that `Operation.now` knows. -/
def CacheEvent.operation? : CacheEvent γ → Option Operation
  | start (.lookup host) => some (.lookup host)
  | start (.prewarm host) => some (.prewarm host)
  | start (.sockets host order) => some (.sockets host order)
  | start (.dial request) => some (.dial request.network request.addr request.order)
  | start (.refresh _) => some .refresh
  | tick _ => some .pass
  | clear => some .clear
  | _ => none

/-- An operation as a run has it: the time before it, the event that begins it, and what happens
from there to the next. -/
structure Turn (γ : Type) where
  pause : Nat
  begins : CacheEvent γ
  during : List (CacheEvent γ)

def Turn.events (t : Turn γ) : List (CacheEvent γ) :=
  .elapse t.pause :: t.begins :: t.during

def operationsOf (turns : List (Turn γ)) : List Operation :=
  turns.filterMap (·.begins.operation?)

theorem operationsOf_cons {t : Turn γ} {op : Operation} (h : t.begins.operation? = some op)
    (ts : List (Turn γ)) : operationsOf (t :: ts) = op :: operationsOf ts :=
  List.filterMap_cons_some h

/-- The turn is the operation, and ends. The background task makes a pass if its tick is due and
somebody has the cache. -/
structure CacheState.Takes (s : CacheState) (op : Operation) (t : Turn γ) : Prop where
  begins : t.begins.operation? = some op
  due : op = .pass →
    ∃ ticker, s.background = .waiting ticker ∧ ticker.isDue (s.later t.pause).now ∧ s.isAlive
  attends : ∀ e ∈ t.during, e.Attends
  ends : (s.after t.events).IsQuiet

/-- Each turn takes an operation. -/
def CacheState.InTurns : CacheState → List (Turn γ) → Prop
  | _, [] => True
  | s, t :: ts => (∃ op, s.Takes op t) ∧ InTurns (s.after t.events) ts

/-- No token has been cancelled in between, and the owner of the cache and its background task are
still there if they were. -/
structure CacheState.Keeps (s t : CacheState) : Prop where
  cancelled : t.cancelled = s.cancelled
  isReleased : t.isReleased = s.isReleased
  background : s.isReleased = false → s.background ≠ .ended → t.background ≠ .ended

theorem CacheState.Keeps.trans {s t u : CacheState} (h : s.Keeps t) (h' : t.Keeps u) :
    s.Keeps u where
  cancelled := h'.cancelled.trans h.cancelled
  isReleased := h'.isReleased.trans h.isReleased
  background hr hb := h'.background (h.isReleased.trans hr) (h.background hr hb)

theorem CacheState.Keeps.of_tasks {s t u : CacheState} (h : u = { t with tasks := u.tasks })
    (hc : t.cancelled = s.cancelled) (hr : t.isReleased = s.isReleased)
    (hb : t.background = s.background) : s.Keeps u := by
  rw [h]
  exact ⟨hc, hr, fun _ hs => hb ▸ hs⟩

theorem CacheState.conclude_keeps (s : CacheState) (answer : Option Answer) (owner : Owner) :
    s.Keeps (s.conclude answer owner : Stepped γ).1 := by
  rcases owner with ⟨id, goal, flight⟩ | ⟨id, pass, flight⟩ | ⟨ticker, pass, flight⟩
  · obtain ⟨said, -, h⟩ := s.endLookup_eq (γ := γ) id goal flight answer
    rw [conclude, h]
    exact .of_tasks (Stepped.Drops.reach _ id flight.host goal _).state rfl rfl rfl
  · exact .of_tasks (keepRefresh_state (γ := γ) _ id _).1 rfl rfl rfl
  · refine ⟨rfl, rfl, fun _ _ => ?_⟩
    simp only [conclude, keepBackground]
    split <;> simp

theorem CacheState.start_keeps (s : CacheState) (request : Request) :
    s.Keeps (s.start request : Stepped γ).1 := by
  rcases s.start_cases (γ := γ) request with ⟨host, goal, -, h⟩ | ⟨order, rfl⟩ | ⟨error, -, h⟩
  · rw [h]
    unfold lookUp
    simp only []
    split
    · exact .of_tasks (Stepped.Drops.reach _ s.nextTask host goal _).state rfl rfl rfl
    · exact ⟨rfl, rfl, fun _ hb => hb⟩
  · rw [start_refresh]
    exact .of_tasks (keepRefresh_state (γ := γ) _ s.nextTask _).1 rfl rfl rfl
  · rw [h]
    exact ⟨rfl, rfl, fun _ hb => hb⟩

theorem CacheState.takeTick_keeps (s : CacheState) (order : List String) :
    s.Keeps (s.takeTick order : Stepped γ).1 := by
  unfold takeTick
  split
  · split_ifs with hdue halive
    · exact ⟨rfl, rfl, fun _ hb => hb⟩
    · refine ⟨rfl, rfl, fun hr => ?_⟩
      simp [isAlive, hr] at halive
    · refine ⟨rfl, rfl, fun _ _ => ?_⟩
      simp only [keepBackground]
      split <;> simp
  · exact ⟨rfl, rfl, fun _ hb => hb⟩

theorem CacheState.step_keeps {s : CacheState} (hc : s.cancelled = []) {e : CacheEvent γ}
    (he : e.operation?.isSome ∨ e.Attends) : s.Keeps (s.step e).1 := by
  rcases he with he | he
  · rcases e with request | ⟨call, given, cancels⟩ | ⟨task, outcome, cancels⟩ | token | task
      | _ | _ | _ | order | nanos
    case start => exact s.start_keeps request
    case clear => exact ⟨rfl, rfl, fun _ hb => hb⟩
    case tick => exact s.takeTick_keeps order
    all_goals simp [CacheEvent.operation?] at he
  · rcases attends_cases hc he with ⟨owner, answer, -, hs⟩
      | ⟨id, request, attempts, outcome, rfl, ht⟩ | ⟨nanos, hs⟩
    · rw [hs]
      exact s.conclude_keeps answer owner
    · rw [step_outcome_of_attempting ht (by simp [hc])]
      simp only [cancelBy_none]
      rcases outcome with error | connection
      · exact .of_tasks (Stepped.Drops.attemptNext s id request _).state rfl rfl rfl
      · exact ⟨rfl, rfl, fun _ hb => hb⟩
    · rw [hs]
      exact ⟨rfl, rfl, fun _ hb => hb⟩

theorem CacheState.Takes.keeps {s : CacheState} (hc : s.cancelled = []) {op : Operation}
    {t : Turn γ} (ht : s.Takes op t) : s.Keeps (s.after t.events) := by
  have hall : ∀ es : List (CacheEvent γ), (∀ e ∈ es, e.operation?.isSome ∨ e.Attends) →
      ∀ u : CacheState, u.cancelled = [] → u.Keeps (u.after es) := by
    intro es
    induction es with
    | nil => exact fun _ u _ => ⟨rfl, rfl, fun _ hb => hb⟩
    | cons e es ih =>
      intro hes u hu
      obtain ⟨he, hes⟩ := List.forall_mem_cons.1 hes
      have hstep := step_keeps hu he
      exact hstep.trans (ih hes _ (hstep.cancelled.trans hu))
  refine hall t.events ?_ s hc
  rw [Turn.events, List.forall_mem_cons, List.forall_mem_cons]
  exact ⟨.inr trivial, .inl (Option.isSome_of_mem ht.begins), fun e he => .inr (ht.attends e he)⟩

namespace Peers

variable {w : Peers γ}

/-- What an operation that looks up a host comes to at once. -/
theorem now_of_sought (limit : Duration) {s : CacheState} {request : Request} {host : String}
    {goal : Goal} (h : s.sought? request = some (host, goal)) {op : Operation}
    (hop : (CacheEvent.start request : CacheEvent γ).operation? = some op)
    (u : Surroundings (String → Nat)) :
    op.now w.resolver w.connector limit u
      = (some (w.comesTo u.world host goal (lookupNow w.resolver limit host u).1),
        (lookupNow w.resolver limit host u).2) := by
  rcases hl : lookupNow w.resolver limit host u with ⟨result, left⟩
  rcases request with host' | host' | ⟨host', order⟩ | request | order
  · obtain ⟨rfl, rfl⟩ : host' = host ∧ .addresses = goal := by simpa [CacheState.sought?] using h
    obtain rfl := Option.some.inj hop
    simp only [Operation.now, hl, comesTo]
  · obtain ⟨rfl, rfl⟩ : host' = host ∧ .warmth = goal := by simpa [CacheState.sought?] using h
    obtain rfl := Option.some.inj hop
    simp only [Operation.now, prewarmNow, hl, comesTo]
  · obtain ⟨rfl, rfl⟩ : host' = host ∧ .sockets order = goal := by
      simpa [CacheState.sought?] using h
    obtain rfl := Option.some.inj hop
    rcases result with error | addresses
    · simp only [Operation.now, socketsNow, hl, comesTo]
    · simp only [Operation.now, socketsNow, hl, comesTo]
  · obtain rfl := Option.some.inj hop
    simp only [CacheState.sought?] at h
    split at h
    · simp at h
    rename_i target hparse
    split_ifs at h
    obtain ⟨rfl, rfl⟩ : target.host = host ∧ .dial request target.port = goal := by simpa using h
    rcases result with error | addresses
    · simp only [Operation.now, dialNow, hparse, hl, comesTo]
    · simp only [Operation.now, dialNow, hparse, hl, comesTo]
      rw [failover_connector _ _ _ _ left.world u.world]
  · simp [CacheState.sought?] at h

/-- Without tokens an operation that looks nothing up has no target, or is a refresh. -/
theorem sought?_eq_none {s : CacheState} (hc : s.cancelled = []) {request : Request}
    (h : s.sought? request = none) :
    (∃ order, request = .refresh order)
      ∨ ∃ dial error, request = .dial dial ∧ Target.parse dial.addr = .error error := by
  rcases request with host | host | ⟨host, order⟩ | dial | order
  case refresh => exact .inl ⟨order, rfl⟩
  case dial =>
    simp only [CacheState.sought?] at h
    split at h
    · rename_i error hparse
      exact .inr ⟨dial, error, rfl, hparse⟩
    · simp [CacheState.isCancelled, hc] at h
  all_goals simp [CacheState.sought?] at h

/-- The same after the time before the turn has passed. -/
theorem begins_eq_now {s : CacheState} (hs : s.IsQuiet) (hc : s.cancelled = [])
    (hn : s.entries.hosts.Nodup) {past : List (CacheEffect γ)}
    (hpast : ∀ flight ∈ asked past, flight.call < s.nextCall) {op : Operation}
    {e : CacheEvent γ} (hop : e.operation? = some op)
    (hdue : op = .pass →
      ∃ ticker, s.background = .waiting ticker ∧ ticker.isDue s.now ∧ s.isAlive)
    {es : List (CacheEvent γ)} (hes : ∀ e ∈ es, e.Attends) (hw : w.Serve past s (e :: es))
    (hend : (s.after (e :: es)).IsQuiet) :
    let r := op.now w.resolver w.connector s.settings.lookupTimeout ⟨s.entries, callsFor past⟩
    let effects := s.effects (e :: es)
    resultsOf s.nextTask effects = r.1.toList
      ∧ (s.after (e :: es)).entries = r.2.entries ∧ callsFor (past ++ effects) = r.2.world := by
  rcases e with request | ⟨call, given, cancels⟩ | ⟨task, outcome, cancels⟩ | token | task
    | _ | _ | _ | order | nanos
  case start =>
    rcases hsought : s.sought? request with _ | ⟨host, goal⟩
    case some =>
      rw [now_of_sought _ hsought hop]
      exact lookup_attend hs hc hsought hpast hes hw hend
    rcases sought?_eq_none hc hsought with ⟨order, rfl⟩ | ⟨dial, error, rfl, hparse⟩
    · obtain rfl := Option.some.inj hop
      have hbegins : s.Begins (some s.nextTask) (.start (.refresh order) : CacheEvent γ) := rfl
      obtain ⟨hresults, hrest⟩ := refresh_attend hs hc hn hbegins hpast hes hw hend
      exact ⟨by rw [hresults, if_pos rfl]; rfl, hrest⟩
    · obtain rfl := Option.some.inj hop
      have hquiet : ({ s with nextTask := s.nextTask + 1 } : CacheState).IsQuiet :=
        ⟨hs.tasks, hs.passes⟩
      obtain ⟨heffects, nanos, hafter⟩ := hquiet.attend hc hes
      rw [CacheState.effects, CacheState.after, s.step_start_unparsed hparse, heffects, hafter]
      simp only [Operation.now, dialNow, hparse]
      exact ⟨by simp [resultsOf], rfl, callsFor_of_nothing rfl⟩
  case tick =>
    obtain rfl := Option.some.inj hop
    obtain ⟨hresults, hrest⟩ := refresh_attend (e := .tick order) hs hc hn ⟨rfl, hdue rfl⟩ hpast
      hes hw hend
    exact ⟨by rw [hresults]; rfl, hrest⟩
  case clear =>
    obtain rfl := Option.some.inj hop
    have hquiet : ({ s with entries := .empty } : CacheState).IsQuiet := ⟨hs.tasks, hs.passes⟩
    obtain ⟨heffects, nanos, hafter⟩ := hquiet.attend hc hes
    have hstep : s.step (.clear : CacheEvent γ) = ({ s with entries := .empty }, []) := rfl
    rw [CacheState.effects, CacheState.after, hstep, heffects, hafter]
    exact ⟨rfl, rfl, callsFor_of_nothing rfl⟩
  all_goals simp [CacheEvent.operation?] at hop

/-- A turn comes to what its operation comes to at once. -/
theorem turn_eq_now {s : CacheState} (hs : s.IsQuiet) (hc : s.cancelled = [])
    (hn : s.entries.hosts.Nodup) {past : List (CacheEffect γ)}
    (hpast : ∀ flight ∈ asked past, flight.call < s.nextCall) {op : Operation} {t : Turn γ}
    (ht : s.Takes op t) (hw : w.Serve past s t.events) :
    let r := op.now w.resolver w.connector s.settings.lookupTimeout ⟨s.entries, callsFor past⟩
    let effects := s.effects t.events
    resultsOf s.nextTask effects = r.1.toList
      ∧ (s.after t.events).entries = r.2.entries ∧ callsFor (past ++ effects) = r.2.world := by
  have hlater : (s.later t.pause).IsQuiet := ⟨hs.tasks, hs.passes⟩
  obtain ⟨-, hw⟩ := hw
  rw [show (s.step (.elapse t.pause : CacheEvent γ)) = (s.later t.pause, []) from rfl,
    List.append_nil] at hw
  exact begins_eq_now hlater hc hn hpast ht.begins ht.due ht.attends hw ht.ends

end Peers

end HostDialing

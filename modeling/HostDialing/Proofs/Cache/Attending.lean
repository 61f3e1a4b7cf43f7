import HostDialing.Cache.Direct
import HostDialing.Proofs.Cache.Turns
import HostDialing.Proofs.Dial.Isolation

/-!
# One task at a time

`Peers` are a resolver that goes by the host and by how often it was asked for that host, and a
connector that goes by its arguments. Where they are all that a cache hears of, and one task is all
that is under way, what the task comes to is a function of the entries and of those counts: a lookup
waits until its question ends (`CacheState.resolving_attend`), a dial until an attempt connects or
none is left (`Peers.attempting_attend`), and nothing else happens meanwhile.
-/

namespace HostDialing

variable {γ : Type}

structure Peers (γ : Type) where
  /-- What the resolver says about a host of which it was asked so often before. -/
  answers : String → Nat → Option Answer
  /-- What becomes of an attempt at an address of a network. -/
  connect : String → String → Except IoError γ

/-- How often the resolver was asked for a host. -/
def callsFor (effects : List (CacheEffect γ)) (host : String) : Nat :=
  (asked effects).countP (·.host == host)

/-- How often the resolver was asked for the host of a question before it was asked that. -/
def callsBefore (effects : List (CacheEffect γ)) (flight : Flight) : Nat :=
  (asked effects).countP fun other => other.host == flight.host && decide (other.call < flight.call)

namespace Peers

variable (w : Peers γ)

def resolver : Resolver (String → Nat) := fun host calls =>
  (w.answers host (calls host), Function.update calls host (calls host + 1))

def connector : Connector (String → Nat) γ := fun network candidate calls =>
  (w.connect network candidate, calls)

/-- What comes in a step is what the peers say, where `past` is what the cache has done so far. -/
structure Says (past : List (CacheEffect γ)) (s : CacheState) (e : CacheEvent γ) : Prop where
  answer : ∀ owner answer, s.ended? e = some (owner, answer) →
    answer = w.answers owner.flight.host (callsBefore past owner.flight)
  outcome : ∀ id outcome cancels request attempts, e = .outcome id (some outcome) cancels →
    s.task? id = some (.attempting request attempts) → ∀ network candidate,
      (connectsOf id past).getLast? = some (network, candidate) →
        outcome = w.connect network candidate

/-- The same of a run. -/
def Serve : (past : List (CacheEffect γ)) → CacheState → List (CacheEvent γ) → Prop
  | _, _, [] => True
  | past, s, e :: es => w.Says past s e ∧ Serve (past ++ (s.step e).2) (s.step e).1 es

variable {w}

/-- A question that ends with the answer that the resolver has. -/
theorem Says.of_ended {past : List (CacheEffect γ)} {s : CacheState} {e : CacheEvent γ}
    {owner : Owner} (h : s.ended? e
      = some (owner, w.answers owner.flight.host (callsBefore past owner.flight))) :
    w.Says past s e where
  answer owner' answer h' := by
    obtain ⟨rfl, rfl⟩ := Prod.mk.inj (Option.some.inj (h.symm.trans h'))
    rfl
  outcome id outcome cancels request attempts he := by
    rw [he] at h
    simp [CacheState.ended?] at h

/-- Nothing comes in the step. -/
theorem Says.of_other {past : List (CacheEffect γ)} {s : CacheState} {e : CacheEvent γ}
    (ha : ∀ call answer cancels, e ≠ .answer call answer cancels)
    (ho : ∀ id outcome cancels, e ≠ .outcome id outcome cancels) : w.Says past s e where
  answer owner answer h := by
    obtain ⟨call, given, cancels, he⟩ := CacheState.answer_of_ended h
    exact absurd he (ha call given cancels)
  outcome id outcome cancels request attempts he := absurd he (ho id (some outcome) cancels)

theorem serve_append {es es' : List (CacheEvent γ)} :
    ∀ {past : List (CacheEffect γ)} {s : CacheState},
      w.Serve past s (es ++ es')
        ↔ w.Serve past s es ∧ w.Serve (past ++ s.effects es) (s.after es) es' := by
  induction es with
  | nil =>
    intro past s
    rw [CacheState.effects, List.append_nil]
    exact (and_iff_right trivial).symm
  | cons e es ih =>
    intro past s
    simp only [List.cons_append, Serve, CacheState.after, CacheState.effects, ih,
      List.append_assoc, and_assoc]

end Peers

/-- A task looks for an answer or an outcome, which cancels no token, or time passes. -/
def CacheEvent.Attends : CacheEvent γ → Prop
  | answer _ _ cancels => cancels = none
  | outcome _ _ cancels => cancels = none
  | elapse _ => True
  | _ => False

theorem CacheEvent.Attends.not_isOperation {e : CacheEvent γ} (h : e.Attends) :
    ¬ e.isOperation := by
  cases e <;> simp_all [isOperation, Attends]

/-- The state after some time. -/
def CacheState.later (s : CacheState) (nanos : Nat) : CacheState :=
  { s with now := ⟨s.now.nanos + nanos⟩ }

theorem CacheState.cancelBy_none (s : CacheState) (hasCome : Bool) :
    s.cancelBy hasCome none = s := by
  cases hasCome <;> rfl

theorem CacheState.cancelled?_of_nil {s : CacheState} (hc : s.cancelled = []) (goal : Goal) :
    goal.cancelled? s = none := by
  cases goal <;> simp [Goal.cancelled?, isCancelled, hc]

/-- Whoever waits for an answer takes what is known of it. -/
theorem CacheState.step_of_owner {s : CacheState} (hc : s.cancelled = []) {call : Nat}
    {owner : Owner} (ho : s.owner? call = some owner) {given answer : Option Answer}
    (ha : owner.flight.outcome? s.now given = some answer) :
    let e : CacheEvent γ := .answer call given none
    s.ended? e = some (owner, answer) ∧ s.step e = s.conclude answer owner := by
  have hnone : owner.cancelled? s = none := by
    cases owner
    · exact cancelled?_of_nil hc _
    · rfl
    · rfl
  refine ⟨by simp only [ended?, ho, hnone, ha, Option.map_some], ?_⟩
  rcases owner with ⟨id, goal, flight⟩ | ⟨id, pass, flight⟩ | ⟨ticker, pass, flight⟩ <;>
    simp only [Owner.cancelled?, Owner.flight] at hnone ha <;>
    simp only [step, takeAnswer, ho, cancelBy_none, hnone, ha, conclude]

/-- A step in which no operation begins and no token is cancelled ends a question, or brings the
outcome of an attempt, or lets time pass. -/
theorem CacheState.attends_cases {s : CacheState} (hc : s.cancelled = []) {e : CacheEvent γ}
    (he : e.Attends) :
    (∃ owner answer, s.ended? e = some (owner, answer) ∧ s.step e = s.conclude answer owner)
    ∨ (∃ id request attempts outcome, e = .outcome id (some outcome) none
      ∧ s.task? id = some (.attempting request attempts))
    ∨ ∃ nanos, s.step e = (s.later nanos, []) := by
  rcases e with request | ⟨call, given, cancels⟩ | ⟨task, outcome, cancels⟩ | token | task
    | _ | _ | _ | order | nanos
  case answer =>
    obtain rfl : cancels = none := he
    rcases ho : s.owner? call with _ | owner
    · exact .inr (.inr ⟨0, by simp only [step, takeAnswer, ho]; rfl⟩)
    rcases ha : owner.flight.outcome? s.now given with _ | answer
    · refine .inr (.inr ⟨0, ?_⟩)
      rcases owner with ⟨id, goal, flight⟩ | ⟨id, pass, flight⟩ | ⟨ticker, pass, flight⟩ <;>
        simp only [Owner.flight] at ha <;>
        simp only [step, takeAnswer, ho, cancelBy_none, cancelled?_of_nil hc, ha] <;> rfl
    · exact .inl ⟨owner, answer, step_of_owner hc ho ha⟩
  case outcome =>
    obtain rfl : cancels = none := he
    by_cases hgone : ∃ request attempts, s.task? task = some (.attempting request attempts)
    · obtain ⟨request, attempts, ht⟩ := hgone
      rcases outcome with _ | outcome
      · refine .inr (.inr ⟨0, ?_⟩)
        rw [step_outcome_of_attempting ht (by simp [hc])]
        rfl
      · exact .inr (.inl ⟨task, request, attempts, outcome, rfl, ht⟩)
    · refine .inr (.inr ⟨0, ?_⟩)
      simp only [step, takeOutcome]
      split
      · rename_i request attempts ht
        exact absurd ⟨request, attempts, ht⟩ hgone
      · rfl
  case elapse => exact .inr (.inr ⟨nanos, rfl⟩)
  all_goals exact he.elim

theorem CacheState.IsQuiet.not_waits {s : CacheState} (h : s.IsQuiet) (owner : Owner) :
    ¬ owner.Waits s := by
  intro hw
  rcases owner with ⟨id, goal, flight⟩ | ⟨id, pass, flight⟩ | ⟨ticker, pass, flight⟩
  · simp [Owner.Waits, h.tasks] at hw
  · simp [Owner.Waits, h.tasks] at hw
  · exact absurd (mem_passes.2 (.inr ⟨ticker, hw.1⟩)) (by simp [h.passes])

/-- Where nothing is under way nothing happens. -/
theorem CacheState.IsQuiet.attend {s : CacheState} (h : s.IsQuiet) (hc : s.cancelled = [])
    {es : List (CacheEvent γ)} (hes : ∀ e ∈ es, e.Attends) :
    s.effects es = [] ∧ ∃ nanos, s.after es = s.later nanos := by
  induction es generalizing s with
  | nil => exact ⟨rfl, 0, rfl⟩
  | cons e es ih =>
    obtain ⟨he, hes⟩ := List.forall_mem_cons.1 hes
    rcases attends_cases hc he with ⟨owner, answer, hended, -⟩ | ⟨id, request, attempts, _, -, ht⟩
      | ⟨nanos, hs⟩
    · exact absurd (waits_of_ended hended) (h.not_waits owner)
    · have hm := mem_tasks_of_task? ht
      simp [h.tasks] at hm
    · have hlater : (s.later nanos).IsQuiet := ⟨h.tasks, h.passes⟩
      obtain ⟨heffects, nanos', hafter⟩ := ih hlater hc hes
      refine ⟨by rw [effects, hs, heffects]; rfl, nanos + nanos', ?_⟩
      rw [after, hs, hafter]
      simp only [later, Nat.add_assoc]

/-- A task that was alone leaves nothing under way. -/
theorem CacheState.isQuiet_removeTask {s : CacheState} {id : Nat} {t : Task}
    (ht : s.tasks = [(id, t)]) (hp : s.passes = []) : (s.removeTask id).IsQuiet :=
  ⟨by simp [removeTask, ht], no_pass_of_tasks (t := s.removeTask id) hp rfl
    fun _ he => .inl (List.mem_of_mem_filter he)⟩

/-- A dial that was alone is so at its next attempt. -/
theorem CacheState.attemptNext_alone {s : CacheState} {id : Nat} {t : Task}
    (ht : s.tasks = [(id, t)]) (hp : s.passes = []) (hc : s.cancelled = [])
    (request : DialRequest) (candidate : String) (left : List String) (first : Option IoError) :
    let u := s.setTask id (.attempting request ⟨left, first⟩)
    (s.attemptNext id request ⟨candidate :: left, first⟩ : Stepped γ)
        = (u, [.connect id request.network candidate])
      ∧ u.tasks = [(id, .attempting request ⟨left, first⟩)] ∧ u.passes = [] := by
  intro u
  have hut : u.tasks = [(id, .attempting request ⟨left, first⟩)] := by simp [u, setTask, ht]
  refine ⟨attemptNext_cons (by simp [hc]) id candidate left first, hut,
    no_pass_of_tasks (t := u) hp rfl fun entry he => ?_⟩
  rw [hut, List.mem_singleton] at he
  rw [he]
  exact .inr rfl

/-- A lookup that starts on a quiet cache is alone. -/
theorem CacheState.IsQuiet.step_of_sought {s : CacheState} (h : s.IsQuiet) {request : Request}
    {host : String} {goal : Goal} (hsought : s.sought? request = some (host, goal)) :
    let flight := Flight.start s.nextCall host s.now s.settings.lookupTimeout
    let u := ({ s with nextTask := s.nextTask + 1 } : CacheState).addTask s.nextTask
      (.resolving goal flight)
    u.tasks = [(s.nextTask, .resolving goal flight)] ∧ u.passes = []
      ∧ s.step (.start request : CacheEvent γ) = match s.entries.known? host with
        | some addresses => u.reach s.nextTask host goal (.ok addresses)
        | none => ({ u with nextCall := s.nextCall + 1 }, [.resolve flight]) := by
  intro flight u
  have hut : u.tasks = [(s.nextTask, .resolving goal flight)] := by
    simp [u, addTask, h.tasks]
  refine ⟨hut, no_pass_of_tasks (t := u) h.passes rfl fun entry he => ?_, start_of_sought hsought⟩
  rw [hut, List.mem_singleton] at he
  rw [he]
  exact .inr rfl

/-- The question of a lookup that is alone ends once, and until then nothing happens. -/
theorem CacheState.resolving_attend {s : CacheState} {id : Nat} {goal : Goal} {flight : Flight}
    (ht : s.tasks = [(id, .resolving goal flight)]) (hp : s.passes = []) (hc : s.cancelled = [])
    {es : List (CacheEvent γ)} (hes : ∀ e ∈ es, e.Attends) (hend : (s.after es).tasks = []) :
    ∃ before e rest nanos answer, es = before ++ e :: rest ∧ s.effects before = []
      ∧ s.after before = s.later nanos
      ∧ (s.later nanos).ended? e = some (.lookup id goal flight, answer)
      ∧ (s.later nanos).step e = (s.later nanos).conclude answer (.lookup id goal flight) := by
  induction es generalizing s with
  | nil => simp [after, ht] at hend
  | cons e es ih =>
    obtain ⟨he, hes⟩ := List.forall_mem_cons.1 hes
    rcases attends_cases hc he with ⟨owner, answer, hended, hs⟩
      | ⟨id', request, attempts, _, -, ht'⟩ | ⟨nanos, hs⟩
    · obtain rfl : owner = .lookup id goal flight := by
        have hw := waits_of_ended hended
        rcases owner with ⟨id', goal', flight'⟩ | ⟨id', pass, flight'⟩ | ⟨ticker, pass, flight'⟩
        · obtain ⟨rfl, rfl, rfl⟩ : id' = id ∧ goal' = goal ∧ flight' = flight := by
            simpa [Owner.Waits, ht] using hw
          rfl
        · simp [Owner.Waits, ht] at hw
        · exact absurd (mem_passes.2 (.inr ⟨ticker, hw.1⟩)) (by simp [hp])
      exact ⟨[], e, es, 0, answer, rfl, rfl, rfl, hended, hs⟩
    · have hm := mem_tasks_of_task? ht'
      simp [ht] at hm
    · rw [after, hs] at hend
      obtain ⟨before, e', rest, nanos', answer, rfl, heffects, hafter, hended, hstep⟩ :=
        ih (s := s.later nanos) ht hp hc hes hend
      have hlater : (s.later nanos).later nanos' = s.later (nanos + nanos') := by
        simp only [later, Nat.add_assoc]
      rw [hlater] at hafter hended hstep
      refine ⟨e :: before, e', rest, nanos + nanos', answer, rfl, ?_, ?_, hended, hstep⟩
      · rw [effects, hs, heffects]
        rfl
      · rw [after, hs, hafter]

/-- The attempt of a dial that is alone ends once, and until then nothing happens. -/
theorem CacheState.attempting_attend {s : CacheState} {id : Nat} {request : DialRequest}
    {attempts : Attempts} (ht : s.tasks = [(id, .attempting request attempts)])
    (hp : s.passes = []) (hc : s.cancelled = []) {es : List (CacheEvent γ)}
    (hes : ∀ e ∈ es, e.Attends) (hend : (s.after es).tasks = []) :
    ∃ before rest nanos outcome, es = before ++ .outcome id (some outcome) none :: rest
      ∧ s.effects before = [] ∧ s.after before = s.later nanos := by
  induction es generalizing s with
  | nil => simp [after, ht] at hend
  | cons e es ih =>
    obtain ⟨he, hes⟩ := List.forall_mem_cons.1 hes
    rcases attends_cases hc he with ⟨owner, answer, hended, -⟩
      | ⟨id', request', attempts', outcome, rfl, ht'⟩ | ⟨nanos, hs⟩
    · have hw := waits_of_ended hended
      rcases owner with ⟨id', goal', flight'⟩ | ⟨id', pass, flight'⟩ | ⟨ticker, pass, flight'⟩
      · simp [Owner.Waits, ht] at hw
      · simp [Owner.Waits, ht] at hw
      · exact absurd (mem_passes.2 (.inr ⟨ticker, hw.1⟩)) (by simp [hp])
    · have hm := mem_tasks_of_task? ht'
      obtain ⟨rfl, -⟩ : id' = id
          ∧ Task.attempting request' attempts' = .attempting request attempts := by
        simpa [ht] using hm
      exact ⟨[], es, 0, outcome, rfl, rfl, rfl⟩
    · rw [after, hs] at hend
      obtain ⟨before, rest, nanos', outcome, rfl, heffects, hafter⟩ :=
        ih (s := s.later nanos) ht hp hc hes hend
      refine ⟨e :: before, rest, nanos + nanos', outcome, rfl, ?_, ?_⟩
      · rw [effects, hs, heffects]
        rfl
      · rw [after, hs, hafter]
        simp only [later, Nat.add_assoc]

namespace Peers

variable {w : Peers γ}

theorem failover_connector (network addr : String) :
    ∀ (left : List String) (first : Option IoError) (calls calls' : String → Nat),
      failover w.connector network addr left first calls
        = ((failover w.connector network addr left first calls').1, calls) := by
  intro left
  induction left with
  | nil => exact fun _ _ _ => rfl
  | cons candidate left ih =>
    intro first calls calls'
    simp only [failover, connector]
    rcases w.connect network candidate with error | connection
    · exact ih _ calls calls'
    · rfl

/-- A dial that is alone comes to what trying its candidates one after another comes to. The
induction is on the candidates: between two of them the dial waits for an outcome. -/
theorem attempts_attend {id : Nat} {request : DialRequest} (calls : String → Nat) :
    ∀ {left : List String} {first : Option IoError} {s : CacheState} {t : Task}
      {past : List (CacheEffect γ)} {es : List (CacheEvent γ)}, s.tasks = [(id, t)] →
      s.passes = [] → s.cancelled = [] → (∀ e ∈ es, e.Attends) →
      let r : Stepped γ := s.attemptNext id request ⟨left, first⟩
      w.Serve (past ++ r.2) r.1 es → (r.1.after es).tasks = [] →
        resultsOf id (r.2 ++ r.1.effects es) = [.dialed
          (failover w.connector request.network request.addr left first calls).1]
        ∧ (r.1.after es).entries = s.entries := by
  intro left
  induction left with
  | nil =>
    intro first s t past es ht hp hc hes r hw hend
    have hr : r = (s.removeTask id,
        [.finished id (.dialed (.error (Attempts.error ⟨[], first⟩ request.addr)))]) :=
      s.attemptNext_nil request id first
    obtain ⟨heffects, nanos, hafter⟩ := (CacheState.isQuiet_removeTask ht hp).attend hc hes
    rw [hr, heffects, hafter]
    exact ⟨by simp [resultsOf, failover], rfl⟩
  | cons candidate left ih =>
    intro first s t past es ht hp hc hes r hw hend
    obtain ⟨hr, hut, hup⟩ :=
      CacheState.attemptNext_alone (γ := γ) ht hp hc request candidate left first
    set u := s.setTask id (.attempting request ⟨left, first⟩)
    simp only [r, hr] at hw hend ⊢
    obtain ⟨before, rest, nanos, outcome, rfl, hbefore, hafter⟩ :=
      CacheState.attempting_attend hut hup hc hes hend
    have htask : (u.later nanos).task? id = some (.attempting request ⟨left, first⟩) := by
      simp [CacheState.task?, CacheState.later, hut]
    have hrest : ∀ e ∈ rest, e.Attends := fun e he =>
      hes e (List.mem_append_right _ (List.mem_cons_of_mem _ he))
    obtain ⟨-, hw⟩ := serve_append.1 hw
    rw [hbefore, hafter, List.append_nil] at hw
    obtain ⟨hcomes, hw⟩ := hw
    have hout : outcome = w.connect request.network candidate :=
      hcomes.outcome id outcome none request _ rfl htask _ _ (by simp [connectsOf])
    have hstep := CacheState.step_outcome_of_attempting htask
      (show request.token ∉ s.cancelled by simp [hc]) (some outcome) none
    rw [CacheState.after_append, hafter] at hend ⊢
    rw [CacheState.effects_append, hbefore, hafter, List.nil_append]
    simp only [CacheState.after, CacheState.effects] at hend ⊢
    rcases ho : w.connect request.network candidate with error | connection
    · rw [hout, ho] at hstep hw hend ⊢
      simp only [CacheState.cancelBy_none, Attempts.failed_eq] at hstep
      rw [hstep] at hw hend ⊢
      obtain ⟨hresults, hentries⟩ := ih (s := u.later nanos) hut hup hc hrest hw hend
      refine ⟨?_, hentries⟩
      rw [resultsOf_append, hresults]
      simp [resultsOf, failover, connector, ho, Attempts.failed_eq]
    · rw [hout, ho] at hstep ⊢
      simp only [CacheState.cancelBy_none] at hstep
      rw [hstep]
      obtain ⟨heffects, nanos', hafter⟩ :=
        (CacheState.isQuiet_removeTask (s := u.later nanos) hut hup).attend hc hrest
      simp only [heffects, hafter]
      exact ⟨by simp [resultsOf, failover, connector, ho], rfl⟩

/-- What a task ends with whose lookup has come to `result`. -/
def comesTo (w : Peers γ) (calls : String → Nat) (host : String) :
    Goal → Except ResolutionError (List String) → TaskResult γ
  | .addresses, result => .addresses result
  | .warmth, result => .warmed (result.map fun _ => ())
  | .sockets _, .error error => .sockets (.error error)
  | .sockets order, .ok addresses =>
    .sockets (usableSockets host addresses (order addresses.length))
  | .dial _ _, .error error => .dialed (.error (.resolution error))
  | .dial request port, .ok addresses =>
    let left := candidates addresses (request.order addresses.length) port
    .dialed (failover w.connector request.network request.addr left none calls).1

theorem comesTo_congr (calls calls' : String → Nat) (host : String) (goal : Goal)
    (result : Except ResolutionError (List String)) :
    w.comesTo calls host goal result = w.comesTo calls' host goal result := by
  rcases goal with _ | _ | order | ⟨request, port⟩
  · rfl
  · rfl
  · cases result <;> rfl
  · rcases result with error | addresses
    · rfl
    · simp only [comesTo]
      rw [failover_connector _ _ _ _ calls calls']

theorem reach_attend {id : Nat} (calls : String → Nat) (host : String) (goal : Goal)
    (result : Except ResolutionError (List String)) {s : CacheState} {t : Task}
    {past : List (CacheEffect γ)} {es : List (CacheEvent γ)} (ht : s.tasks = [(id, t)])
    (hp : s.passes = []) (hc : s.cancelled = []) (hes : ∀ e ∈ es, e.Attends) :
    let r : Stepped γ := s.reach id host goal result
    w.Serve (past ++ r.2) r.1 es → (r.1.after es).tasks = [] →
      resultsOf id (r.2 ++ r.1.effects es) = [w.comesTo calls host goal result]
        ∧ (r.1.after es).entries = s.entries := by
  intro r hw hend
  obtain ⟨heffects, nanos, hafter⟩ := (CacheState.isQuiet_removeTask ht hp).attend hc hes
  have hentries : ((s.removeTask id).after es).entries = s.entries := by
    rw [hafter]
    rfl
  rcases goal with _ | _ | order | ⟨request, port⟩
  · exact ⟨by simp [r, CacheState.reach, heffects, resultsOf, comesTo], hentries⟩
  · exact ⟨by simp [r, CacheState.reach, heffects, resultsOf, comesTo], hentries⟩
  · rcases result with error | addresses
    · exact ⟨by simp [r, CacheState.reach, heffects, resultsOf, comesTo], hentries⟩
    · exact ⟨by simp [r, CacheState.reach, heffects, resultsOf, comesTo], hentries⟩
  · rcases result with error | addresses
    · exact ⟨by simp [r, CacheState.reach, heffects, resultsOf, comesTo], hentries⟩
    · set left := candidates addresses (request.order addresses.length) port
      have hr : r = ((s.attemptNext id request ⟨left, none⟩ : Stepped γ).1,
        .order id addresses.length :: (s.attemptNext id request ⟨left, none⟩).2) := rfl
      rw [hr, List.append_cons] at hw
      obtain ⟨hresults, hrest⟩ := attempts_attend calls ht hp hc hes hw hend
      refine ⟨?_, hrest⟩
      rw [hr, List.cons_append, List.singleton_append.symm, resultsOf_append, hresults]
      rfl

end Peers

theorem callsFor_eq_count (effects : List (CacheEffect γ)) (host : String) :
    callsFor effects host = ((asked effects).map Flight.host).count host := by
  rw [callsFor, List.count_eq_countP, List.countP_map]
  rfl

theorem callsFor_append (l l' : List (CacheEffect γ)) (host : String) :
    callsFor (l ++ l') host = callsFor l host + callsFor l' host := by
  rw [callsFor, asked_append, List.countP_append]
  rfl

/-- Later questions do not count. -/
theorem callsBefore_append_of {past effects : List (CacheEffect γ)} {flight : Flight}
    (h : ∀ other ∈ asked effects, other.host = flight.host → flight.call ≤ other.call) :
    callsBefore (past ++ effects) flight = callsBefore past flight := by
  have hnone : (asked effects).countP
      (fun other => other.host == flight.host && decide (other.call < flight.call)) = 0 :=
    List.countP_eq_zero.2 fun other ho => by simpa using h other ho
  rw [callsBefore, asked_append, List.countP_append, hnone]
  rfl

/-- The latest question comes after all others for its host. -/
theorem callsBefore_eq_callsFor {past : List (CacheEffect γ)} {flight : Flight}
    (h : ∀ other ∈ asked past, other.call < flight.call) :
    callsBefore past flight = callsFor past flight.host := by
  refine List.countP_congr fun other ho => ?_
  simp [h other ho]

/-- One question for a host has been asked. -/
theorem callsFor_asked {past effects : List (CacheEffect γ)} {host : String}
    (h : (asked effects).map Flight.host = [host]) :
    callsFor (past ++ effects)
      = Function.update (callsFor past) host (callsFor past host + 1) := by
  funext other
  rw [callsFor_append, callsFor_eq_count effects, h]
  by_cases ho : other = host
  · subst ho
    simp
  · rw [Function.update_of_ne ho, List.count_eq_zero_of_not_mem (by simpa using ho), Nat.add_zero]

theorem callsFor_of_nothing {past effects : List (CacheEffect γ)} (h : asked effects = []) :
    callsFor (past ++ effects) = callsFor past := by
  funext host
  rw [callsFor_append, callsFor_eq_count effects, h]
  rfl

/-- The end of the question of a lookup: its answer is stored if it has addresses, and then the
task goes on. -/
theorem CacheState.endLookup_eq (s : CacheState) (id : Nat) (goal : Goal) (flight : Flight)
    (answer : Option Answer) :
    let result := resolved flight.host s.settings.lookupTimeout answer
    let t := { s with entries := (Owner.lookup id goal flight).stored s.entries result }
    let r : Stepped γ := t.reach id flight.host goal result
    ∃ said, resultsOf id said = [] ∧ s.endLookup id goal flight answer = (r.1, said ++ r.2) := by
  intro result t r
  simp only [endLookup, r, t, result, Owner.stored]
  rcases resolved flight.host s.settings.lookupTimeout answer with error | addresses
  · exact ⟨[], rfl, rfl⟩
  · exact ⟨[.learned flight.host addresses], rfl, rfl⟩

namespace Peers

variable {w : Peers γ}

/-- A lookup that waits alone for the answer to its question. -/
theorem question_attend {id : Nat} {goal : Goal} {flight : Flight} (calls : String → Nat)
    {s : CacheState} {past : List (CacheEffect γ)} {es : List (CacheEvent γ)}
    (ht : s.tasks = [(id, .resolving goal flight)]) (hp : s.passes = []) (hc : s.cancelled = [])
    (hes : ∀ e ∈ es, e.Attends) (hw : w.Serve past s es) (hend : (s.after es).tasks = []) :
    let result := resolved flight.host s.settings.lookupTimeout
      (w.answers flight.host (callsBefore past flight))
    resultsOf id (s.effects es) = [w.comesTo calls flight.host goal result]
      ∧ (s.after es).entries = (Owner.lookup id goal flight).stored s.entries result := by
  obtain ⟨before, e, rest, nanos, answer, rfl, hbefore, hafter, hended, hstep⟩ :=
    CacheState.resolving_attend ht hp hc hes hend
  have hrest : ∀ e ∈ rest, e.Attends := fun e he =>
    hes e (List.mem_append_right _ (List.mem_cons_of_mem _ he))
  rw [serve_append, hbefore, hafter, List.append_nil] at hw
  obtain ⟨-, hcomes, hw⟩ := hw
  obtain rfl : answer = _ := hcomes.answer _ _ hended
  intro result
  set t : CacheState := { s.later nanos with
    entries := (Owner.lookup id goal flight).stored s.entries result }
  set r : Stepped γ := t.reach id flight.host goal result
  obtain ⟨said, hsaid, hreach⟩ : ∃ said, resultsOf id said = []
      ∧ (s.later nanos).step e = (r.1, said ++ r.2) := by
    rw [hstep]
    exact (s.later nanos).endLookup_eq id goal flight _
  rw [hreach, ← List.append_assoc] at hw
  rw [CacheState.after_append, hafter, CacheState.after, hreach] at hend ⊢
  obtain ⟨hresults, hentries⟩ :=
    reach_attend (s := t) calls flight.host goal result ht hp hc hrest hw hend
  refine ⟨?_, hentries⟩
  rw [CacheState.effects_append, hbefore, hafter, CacheState.effects, hreach, List.nil_append,
    List.append_assoc, resultsOf_append, hsaid, hresults]
  rfl

/-- What a lookup on a quiet cache comes to is what it comes to at once. -/
theorem lookup_attend {s : CacheState} (hs : s.IsQuiet) (hc : s.cancelled = [])
    {request : Request} {host : String} {goal : Goal}
    (hsought : s.sought? request = some (host, goal)) {past : List (CacheEffect γ)}
    (hpast : ∀ flight ∈ asked past, flight.call < s.nextCall) {es : List (CacheEvent γ)}
    (hes : ∀ e ∈ es, e.Attends) (hw : w.Serve past s (.start request :: es))
    (hend : (s.after (.start request :: es)).IsQuiet) :
    let r := lookupNow w.resolver s.settings.lookupTimeout host ⟨s.entries, callsFor past⟩
    let effects := s.effects (.start request :: es)
    resultsOf s.nextTask effects = [w.comesTo (callsFor past) host goal r.1]
      ∧ (s.after (.start request :: es)).entries = r.2.entries
      ∧ callsFor (past ++ effects) = r.2.world := by
  intro r effects
  have hasked := CacheState.asked_of_sought hs hsought fun e he => (hes e he).not_isOperation
  obtain ⟨hut, hup, hstep⟩ := hs.step_of_sought (γ := γ) hsought
  set flight := Flight.start s.nextCall host s.now s.settings.lookupTimeout
  set u := ({ s with nextTask := s.nextTask + 1 } : CacheState).addTask s.nextTask
    (.resolving goal flight)
  obtain ⟨-, hw⟩ := hw
  have hend := hend.tasks
  have heffects : effects = (s.step (.start request)).2
    ++ (s.step (.start request : CacheEvent γ)).1.effects es := rfl
  have hafter : s.after (.start request :: es) = (s.step (.start request)).1.after es := rfl
  rw [heffects, hafter]
  rw [CacheState.effects] at hasked
  rw [hafter] at hend
  rcases hk : s.entries.known? host with _ | addresses
  · rw [hk] at hasked
    simp only [hk] at hstep
    rw [hstep] at hw hend hasked ⊢
    obtain ⟨hresults, hentries⟩ := question_attend (s := { u with nextCall := s.nextCall + 1 })
      (callsFor past) hut hup hc hes hw hend
    set result := resolved host s.settings.lookupTimeout (w.answers host (callsFor past host))
      with hresult
    have hbefore : resolved flight.host s.settings.lookupTimeout
        (w.answers flight.host (callsBefore (past ++ [.resolve flight]) flight)) = result := by
      rw [callsBefore_append_of (by simp [asked]), callsBefore_eq_callsFor hpast]
      rfl
    have hr : r = (result, ⟨(Owner.lookup s.nextTask goal flight).stored s.entries result,
        Function.update (callsFor past) host (callsFor past host + 1)⟩) := by
      simp only [r, lookupNow, hk, resolver, ← hresult]
      rcases result with error | addresses <;> rfl
    rw [hr, ← hbefore]
    exact ⟨hresults, hentries, callsFor_asked hasked⟩
  · rw [hk] at hasked
    simp only [hk] at hstep
    rw [hstep] at hw hend hasked ⊢
    obtain ⟨hresults, hentries⟩ :=
      reach_attend (s := u) (callsFor past) host goal (.ok addresses) hut hup hc hes hw hend
    simp only [r, lookupNow, hk]
    exact ⟨hresults, hentries, callsFor_of_nothing (List.map_eq_nil_iff.1 hasked)⟩

end Peers

end HostDialing

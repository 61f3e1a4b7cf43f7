import HostDialing.Proofs.Cache.KnownHosts
import HostDialing.Proofs.Cache.RefreshPass
import HostDialing.Proofs.Dial.Failover
import HostDialing.Proofs.Dial.Grammar

/-!
# Cancellation of a dial

A dial looks at its token when it starts, whenever it looks for the answer to its lookup or for the
outcome of its attempt, and before each attempt (`CacheState.Looks`). It ends as cancelled if and
only if it finds the token cancelled at one of these moments, whatever has come by then, and with
that it is over: nothing is resolved or connected for it any more (`CacheState.dial_cancelled`).

What a step can be for a dial is said once, in `CacheState.DialStep`, of the step that starts it and
of every one after (`CacheState.Dialing.dialStep`).
-/

namespace HostDialing

variable {γ : Type}

/-- In the step a dial looks at its token, at a moment when these tokens are cancelled. -/
inductive CacheState.Looks (s : CacheState) (id : Nat) (request : DialRequest) (target : Target) :
    CacheEvent γ → (cancelled : List Token) → Prop where
  /-- When it starts. -/
  | atStart : s.nextTask = id → s.Looks id request target (.start (.dial request)) s.cancelled
  /-- Where it looks for the answer to its lookup. -/
  | atLookup {flight : Flight} (answer : Option Answer) (cancels : Option Token) :
    s.task? id = some (.resolving (.dial request target.port) flight) →
      s.Looks id request target (.answer flight.call answer cancels) s.cancelled
  /-- Where it looks for the outcome of an attempt. -/
  | atAttempt {attempts : Attempts} (outcome : Option (Except IoError γ))
    (cancels : Option Token) : s.task? id = some (.attempting request attempts) →
      s.Looks id request target (.outcome id outcome cancels) s.cancelled
  /-- Before its first attempt, if its lookup has come to a list with a candidate. -/
  | beforeFirst {e : CacheEvent γ} {host : String} {addresses : List String} :
    s.lookedUp? e = some (id, host, .ok addresses) →
      candidates addresses (request.order addresses.length) target.port ≠ [] →
        s.Looks id request target e (s.step e).1.cancelled
  /-- Before another attempt, if one has failed and a candidate is left. -/
  | beforeNext {attempts : Attempts} (error : IoError) (cancels : Option Token) :
    s.task? id = some (.attempting request attempts) → request.token ∉ s.cancelled →
      attempts.left ≠ [] →
        s.Looks id request target (.outcome id (some (.error error)) cancels)
          (s.step (.outcome id (some (.error error)) cancels : CacheEvent γ)).1.cancelled

/-- In the step a dial looks at its token, and it is cancelled. -/
def CacheState.FindsCancelled (s : CacheState) (id : Nat) (request : DialRequest)
    (target : Target) (e : CacheEvent γ) : Prop :=
  ∃ cancelled, s.Looks id request target e cancelled ∧ request.token ∈ cancelled

/-- What a task of the dial waits for: the answer to its lookup, or the outcome of an attempt. -/
def Task.Dials (request : DialRequest) (target : Target) : Task → Prop
  | resolving goal _ => goal = .dial request target.port
  | attempting request' _ => request' = request
  | refreshing _ => False

/-- The number is that of a dial, under way or over. -/
structure CacheState.Dials (s : CacheState) (id : Nat) (request : DialRequest)
    (target : Target) : Prop where
  id_lt : id < s.nextTask
  task : ∀ t, s.task? id = some t → t.Dials request target

/-- The step starts the dial, or comes after that. -/
def CacheState.Dialing (s : CacheState) (id : Nat) (request : DialRequest) (target : Target)
    (e : CacheEvent γ) : Prop :=
  e = .start (.dial request) ∧ s.nextTask = id ∧ Target.parse request.addr = .ok target
    ∨ s.Dials id request target

/-- What a step can be for a dial. -/
inductive CacheState.DialStep (s : CacheState) (id : Nat) (request : DialRequest)
    (target : Target) (e : CacheEvent γ) : Prop where
  | waits (task : ∀ t, (s.step e).1.task? id = some t → t.Dials request target)
    (effects : ∀ effect ∈ (s.step e).2, effect.task? ≠ some id)
  | givesUp {t : CacheState} (looks : s.Looks id request target e s.cancelled)
    (cancelled : request.token ∈ s.cancelled) (gone : t.task? id = none)
    (step : s.step e = (t, [.finished id (.dialed (.error (.cancelled request.addr)))]))
  | ends {t : CacheState} {result : Except DialError γ} (gone : t.task? id = none)
    (result_ne : ∀ addr, result ≠ .error (.cancelled addr))
    (step : s.step e = (t, [.finished id (.dialed result)]))
  | begins {host : String} {addresses : List String} {s' : CacheState}
    {said : List (CacheEffect γ)} (lookup : s.lookedUp? e = some (id, host, .ok addresses))
    (waiting : (s'.task? id).isSome)
    (step : s.step e
      = ((s'.reach id host (.dial request target.port) (.ok addresses) : Stepped γ).1,
        said ++ (s'.reach id host (.dial request target.port) (.ok addresses)).2))
    (said_none : ∀ effect ∈ said, effect.task? = none)
  | goesOn {attempts : Attempts} {error : IoError} {cancels : Option Token} {s' : CacheState}
    (outcome : e = .outcome id (some (.error error)) cancels)
    (attempting : s.task? id = some (.attempting request attempts))
    (not_cancelled : request.token ∉ s.cancelled) (waiting : (s'.task? id).isSome)
    (step : s.step e = s'.attemptNext id request (attempts.failed error))

/-! ## Going on with a dial -/

theorem CacheState.attemptNext_cancelled {s : CacheState} {request : DialRequest}
    {attempts : Attempts} (hc : request.token ∈ s.cancelled) (hleft : attempts.left ≠ [])
    (id : Nat) :
    (s.attemptNext id request attempts : Stepped γ)
      = (s.removeTask id, [.finished id (.dialed (.error (.cancelled request.addr)))]) := by
  obtain ⟨_ | ⟨candidate, rest⟩, first⟩ := attempts
  · exact absurd rfl hleft
  · simp [attemptNext, Attempts.next, isCancelled, hc]

/-- A dial that goes on waits for the outcome of an attempt, or it is over; it is cancelled only if
a candidate is left. -/
theorem CacheState.attemptNext_spec {s : CacheState} {id : Nat} (ht : (s.task? id).isSome)
    (request : DialRequest) (target : Target) (attempts : Attempts) :
    let r : Stepped γ := s.attemptNext id request attempts
    (∀ t, r.1.task? id = some t → t.Dials request target)
      ∧ ∀ result, .finished id result ∈ r.2 → r.1.task? id = none
        ∧ ∀ addr, result = .dialed (.error (.cancelled addr)) →
          addr = request.addr ∧ attempts.left ≠ [] ∧ request.token ∈ s.cancelled := by
  obtain ⟨_ | ⟨candidate, rest⟩, first⟩ := attempts
  · rw [attemptNext_nil]
    refine ⟨by simp [task?_removeTask_self], fun result hm => ⟨s.task?_removeTask_self id, ?_⟩⟩
    rintro addr rfl
    cases first <;> simp [Attempts.error] at hm
  by_cases hc : request.token ∈ s.cancelled
  · rw [attemptNext_cancelled hc (by simp)]
    refine ⟨by simp [task?_removeTask_self], fun result hm => ⟨s.task?_removeTask_self id, ?_⟩⟩
    rintro addr rfl
    exact ⟨by simpa using hm, by simp, hc⟩
  · rw [attemptNext_cons hc]
    refine ⟨fun t h => ?_, by simp⟩
    obtain rfl : Task.attempting request ⟨rest, first⟩ = t :=
      Option.some.inj ((task?_setTask_self _ ht).symm.trans h)
    rfl

theorem CacheState.cancelled_reach (s : CacheState) (id : Nat) (host : String) (goal : Goal)
    (result : Except ResolutionError (List String)) :
    (s.reach id host goal result : Stepped γ).1.cancelled = s.cancelled := by
  rw [(Stepped.Drops.reach s id host goal result).state]

theorem CacheState.cancelled_attemptNext (s : CacheState) (id : Nat) (request : DialRequest)
    (attempts : Attempts) :
    (s.attemptNext id request attempts : Stepped γ).1.cancelled = s.cancelled := by
  rw [(Stepped.Drops.attemptNext s id request attempts).state]

/-! ## What a step can be for a dial -/

theorem CacheState.sought?_dial (s : CacheState) {request : DialRequest} {target : Target}
    (hparse : Target.parse request.addr = .ok target) :
    s.sought? (.dial request) = if request.token ∈ s.cancelled then none
      else some (target.host, .dial request target.port) := by
  simp [sought?, hparse, isCancelled]

theorem CacheState.step_start_cancelled {s : CacheState} {request : DialRequest} {target : Target}
    (hparse : Target.parse request.addr = .ok target) (hc : request.token ∈ s.cancelled) :
    s.step (.start (.dial request) : CacheEvent γ)
      = ({ s with nextTask := s.nextTask + 1 },
        [.finished s.nextTask (.dialed (.error (.cancelled request.addr)))]) := by
  simp [step, start, hparse, isCancelled, hc]

theorem CacheState.step_start_unparsed (s : CacheState) {request : DialRequest} {error : DialError}
    (hparse : Target.parse request.addr = .error error) :
    s.step (.start (.dial request) : CacheEvent γ)
      = ({ s with nextTask := s.nextTask + 1 },
        [.finished s.nextTask (.dialed (.error error))]) := by
  simp only [step, start, hparse]

theorem CacheState.step_outcome_cancelled {s : CacheState} {id : Nat} {request : DialRequest}
    {attempts : Attempts} (ht : s.task? id = some (.attempting request attempts))
    (hc : request.token ∈ s.cancelled) (outcome : Option (Except IoError γ))
    (cancels : Option Token) :
    s.step (.outcome id outcome cancels)
      = (s.removeTask id, [.finished id (.dialed (.error (.cancelled request.addr)))]) := by
  simp [step, takeOutcome, ht, isCancelled, hc]

theorem CacheState.Dials.of_task {s : CacheState} {id : Nat} {request : DialRequest}
    {target : Target} (h : s.Dials id request target) {goal : Goal} {flight : Flight}
    (ht : s.task? id = some (.resolving goal flight)) : goal = .dial request target.port :=
  h.task _ ht

theorem CacheState.not_cancelled_of_ended {s : CacheState} {e : CacheEvent γ} {id : Nat}
    {request : DialRequest} {port : UInt16} {flight : Flight} {answer : Option Answer}
    (h : s.ended? e = some (.lookup id (.dial request port) flight, answer)) :
    request.token ∉ s.cancelled := by
  obtain ⟨call, given, cancels, rfl⟩ := answer_of_ended h
  obtain ⟨-, hc, -⟩ := owner_of_ended h
  intro hm
  simp [Owner.cancelled?, Goal.cancelled?, isCancelled, hm] at hc

/-- What a dial looks a host up for is the dial. -/
theorem CacheState.Dialing.goal_eq {s : CacheState} (hn : s.Numbered) {id : Nat}
    {request : DialRequest} {target : Target} {e : CacheEvent γ}
    (h : s.Dialing id request target e) {host : String} {goal : Goal}
    (hwho : (∃ request', e = .start request' ∧ id = s.nextTask
        ∧ s.sought? request' = some (host, goal))
      ∨ ∃ flight, s.task? id = some (.resolving goal flight) ∧ flight.host = host) :
    goal = .dial request target.port := by
  rcases hwho with ⟨request', rfl, rfl, hs⟩ | ⟨flight, ht, -⟩
  · rcases h with ⟨he, -, hparse⟩ | h
    · obtain rfl : request' = .dial request := by simpa using he
      rw [sought?_dial s hparse] at hs
      split_ifs at hs
      obtain ⟨-, rfl⟩ : target.host = host ∧ Goal.dial request target.port = goal := by
        simpa using hs
      rfl
    · exact absurd h.id_lt (Nat.lt_irrefl _)
  · rcases h with ⟨-, rfl, -⟩ | h
    · simp [hn.task?_nextTask] at ht
    · exact h.of_task ht

/-- A dial whose lookup comes to a list goes on with that list. -/
theorem CacheState.Dialing.step_of_lookedUp {s : CacheState} (hn : s.Numbered) {id : Nat}
    {request : DialRequest} {target : Target} {e : CacheEvent γ}
    (h : s.Dialing id request target e) {host : String} {addresses : List String}
    (hl : s.lookedUp? e = some (id, host, .ok addresses)) :
    ∃ s' : CacheState, ∃ said, (s'.task? id).isSome
      ∧ s.step e
        = ((s'.reach id host (.dial request target.port) (.ok addresses) : Stepped γ).1,
          said ++ (s'.reach id host (.dial request target.port) (.ok addresses)).2)
      ∧ ∀ effect ∈ said, effect.task? = none := by
  obtain ⟨goal, s', said, hwho, hsome, hstep, hsaid⟩ := CacheState.step_of_lookedUp hn hl
  obtain rfl := h.goal_eq hn hwho
  exact ⟨s', said, hsome, hstep, hsaid⟩

theorem CacheState.Dialing.not_cancelled_of_lookedUp {s : CacheState} (hn : s.Numbered) {id : Nat}
    {request : DialRequest} {target : Target} {e : CacheEvent γ}
    (h : s.Dialing id request target e) {host : String} {addresses : List String}
    (hl : s.lookedUp? e = some (id, host, .ok addresses)) : request.token ∉ s.cancelled := by
  rcases lookedUp_cases hl with ⟨request', goal, known, rfl, rfl, hs, -⟩
    | ⟨goal, flight, answer, hended, hhost, -⟩
  · rcases h with ⟨he, -, hparse⟩ | h
    · obtain rfl : request' = .dial request := by simpa using he
      intro hc
      simp [sought?_dial s hparse, hc] at hs
    · exact absurd h.id_lt (Nat.lt_irrefl _)
  · have ht := hn.task?_of_mem (waits_of_ended hended)
    obtain rfl := h.goal_eq hn (.inr ⟨flight, ht, hhost⟩)
    exact not_cancelled_of_ended hended

/-- The step that starts a dial. -/
theorem CacheState.dialStep_start {s : CacheState} (hn : s.Numbered) {request : DialRequest}
    {target : Target} (hparse : Target.parse request.addr = .ok target) :
    s.DialStep s.nextTask request target (.start (.dial request) : CacheEvent γ) := by
  by_cases hc : request.token ∈ s.cancelled
  · exact .givesUp (t := { s with nextTask := s.nextTask + 1 }) (.atStart rfl) hc
      hn.task?_nextTask (step_start_cancelled hparse hc)
  have hs := (s.sought?_dial hparse).trans (if_neg hc)
  rcases hk : s.entries.known? target.host with _ | addresses
  · refine .waits (fun t ht => ?_) ?_
    · simp only [step, start_of_sought hs, lookUp, hk] at ht
      have hadd := task?_addTask_self (s := { s with nextTask := s.nextTask + 1 })
        (.resolving (.dial request target.port)
          (Flight.start s.nextCall target.host s.now s.settings.lookupTimeout)) hn.task?_nextTask
      obtain rfl := Option.some.inj (hadd.symm.trans ht)
      rfl
    · simp [step, start_of_sought hs, lookUp, hk, CacheEffect.task?]
  · have hl : s.lookedUp? (.start (.dial request) : CacheEvent γ)
        = some (s.nextTask, target.host, .ok addresses) := (lookUp_known hk hs).1
    obtain ⟨s', said, hsome, hstep, hsaid⟩ :=
      Dialing.step_of_lookedUp hn (.inl ⟨rfl, rfl, hparse⟩) hl
    exact .begins hl hsome hstep hsaid

theorem CacheState.Dials.dialStep_answer {s : CacheState} (hn : s.Numbered) {id : Nat}
    {request : DialRequest} {target : Target} (h : s.Dials id request target) {call : Nat}
    {owner : Owner} (ho : s.owner? call = some owner) (hid : owner.id? = some id)
    (answer : Option Answer) (cancels : Option Token) :
    s.DialStep id request target (.answer call answer cancels : CacheEvent γ) := by
  obtain ⟨hw, hcall⟩ := owner?_spec ho
  rcases hw.task? hn hid with ⟨goal, flight, rfl, ht⟩ | ⟨pass, -, -, ht⟩
  swap
  · exact (h.task _ ht).elim
  obtain rfl := h.of_task ht
  rcases s.answer_cases (γ := γ) call answer cancels with ⟨owner, a, cancelled, hended, ho', -, hs⟩
    | ⟨cancelled, -, -, hs⟩ | ⟨id', goal, flight', error, -, ho', hc, hs⟩
  · obtain rfl := Option.some.inj (ho.symm.trans ho')
    rcases hr : resolved flight.host s.settings.lookupTimeout a with error | addresses
    · have hstep : s.step (.answer call answer cancels : CacheEvent γ)
          = ({ s with cancelled := cancelled }.removeTask id,
            [.finished id (.dialed (.error (.resolution error)))]) := by
        simp only [hs, conclude, endLookup, hr, reach]
      exact .ends (task?_removeTask_self _ id) (by simp) hstep
    · have hl : s.lookedUp? (.answer call answer cancels : CacheEvent γ)
          = some (id, flight.host, .ok addresses) := by
        simp only [lookedUp?, hended, hr]
      obtain ⟨s', said, hsome, hstep, hsaid⟩ := Dialing.step_of_lookedUp hn (.inr h) hl
      exact .begins hl hsome hstep hsaid
  · refine .waits (fun t ht' => h.task t ?_) (by simp [hs])
    rw [← ht', hs]
    rfl
  · obtain ⟨rfl, rfl, rfl⟩ :
        id = id' ∧ Goal.dial request target.port = goal ∧ flight = flight' := by
      simpa using ho.symm.trans ho'
    obtain rfl : flight.call = call := hcall
    have hm : request.token ∈ s.cancelled := by
      by_contra hm
      simp [Goal.cancelled?, isCancelled, hm] at hc
    obtain rfl : DialError.cancelled request.addr = error := by
      simpa [Goal.cancelled?, isCancelled, hm] using hc
    exact .givesUp (.atLookup answer cancels ht) hm (s.task?_removeTask_self id) hs

theorem CacheState.Dials.dialStep_outcome {s : CacheState} {id : Nat} {request : DialRequest}
    {target : Target} (h : s.Dials id request target) (outcome : Option (Except IoError γ))
    (cancels : Option Token) :
    s.DialStep id request target (.outcome id outcome cancels : CacheEvent γ) := by
  by_cases hw : ∃ request attempts, s.task? id = some (.attempting request attempts)
  swap
  · have hs : s.step (.outcome id outcome cancels) = (s, []) := by
      simp only [step, takeOutcome]
      split
      · exact absurd ⟨_, _, ‹_›⟩ hw
      · rfl
    exact .waits (fun t ht => h.task t (by rw [← ht, hs])) (by simp [hs])
  obtain ⟨request', attempts, ht⟩ := hw
  obtain rfl : request' = request := h.task _ ht
  by_cases hc : request'.token ∈ s.cancelled
  · exact .givesUp (.atAttempt outcome cancels ht) hc (s.task?_removeTask_self id)
      (step_outcome_cancelled ht hc outcome cancels)
  obtain ⟨cancelled, hs⟩ := step_outcome ht hc outcome cancels
  rcases outcome with _ | error | connection
  · exact .waits (fun t ht => h.task t (by rw [← ht, hs])) (by simp [hs])
  · have hwaiting : (({ s with cancelled := cancelled } : CacheState).task? id).isSome :=
      Option.isSome_of_mem ht
    exact .goesOn rfl ht hc hwaiting hs
  · exact .ends (task?_removeTask_self _ id) (by simp) hs

theorem CacheState.Dialing.dialStep {s : CacheState} (hn : s.Numbered) {id : Nat}
    {request : DialRequest} {target : Target} {e : CacheEvent γ}
    (h : s.Dialing id request target e) : s.DialStep id request target e := by
  rcases h with ⟨rfl, rfl, hparse⟩ | h
  · exact dialStep_start hn hparse
  by_cases hs : s.subject? e = some id
  case neg =>
    have ho := s.step_only e
    refine .waits (fun t ht => h.task t ?_) fun effect hm hid => hs (ho.effects effect hm id hid)
    rw [← ho.task? id hs, ht]
  rcases e with request' | ⟨call, answer, cancels⟩ | ⟨task, outcome, cancels⟩ | token | task
    | _ | _ | _ | hosts | nanos
  case start =>
    obtain rfl : s.nextTask = id := Option.some.inj hs
    exact absurd h.id_lt (Nat.lt_irrefl _)
  case answer =>
    obtain ⟨owner, ho, hid⟩ := Option.bind_eq_some_iff.1 hs
    exact h.dialStep_answer hn ho hid answer cancels
  case outcome =>
    obtain rfl : task = id := Option.some.inj hs
    exact h.dialStep_outcome outcome cancels
  case abort =>
    obtain rfl : task = id := Option.some.inj hs
    refine .waits (fun t ht => ?_) (by simp [step])
    simp [step, task?_removeTask_self] at ht
  all_goals simp [subject?] at hs

/-! ## The end of a dial -/

theorem mem_resultsOf {id : Nat} {effects : List (CacheEffect γ)} {result : TaskResult γ} :
    result ∈ resultsOf id effects ↔ .finished id result ∈ effects := by
  rw [resultsOf, List.mem_filterMap]
  constructor
  · rintro ⟨effect, hm, h⟩
    split at h
    · rename_i task result'
      split_ifs at h with hid
      obtain rfl : result' = result := Option.some.inj h
      rwa [← hid]
    · simp at h
  · exact fun hm => ⟨_, hm, if_pos rfl⟩

/-- After a step a dial is under way, or over. -/
theorem CacheState.DialStep.task {s : CacheState} {id : Nat} {request : DialRequest}
    {target : Target} {e : CacheEvent γ} (h : s.DialStep id request target e) :
    ∀ t, (s.step e).1.task? id = some t → t.Dials request target := by
  cases h with
  | waits task _ => exact task
  | givesUp _ _ gone step =>
    rw [step]
    simp [gone]
  | ends gone _ step =>
    rw [step]
    simp [gone]
  | begins _ waiting step _ =>
    rw [step]
    exact (attemptNext_spec waiting request target _).1
  | goesOn _ _ _ waiting step =>
    rw [step]
    exact (attemptNext_spec waiting request target _).1

/-- With its result a dial is over, and it is cancelled only if it finds its token so. -/
theorem CacheState.DialStep.finished {s : CacheState} {id : Nat} {request : DialRequest}
    {target : Target} {e : CacheEvent γ} (h : s.DialStep id request target e)
    {result : TaskResult γ} (hm : .finished id result ∈ (s.step e).2) :
    (s.step e).1.task? id = none ∧ ∀ addr, result = .dialed (.error (.cancelled addr)) →
      addr = request.addr ∧ s.FindsCancelled id request target e := by
  cases h with
  | waits _ effects => exact absurd rfl (effects _ hm)
  | givesUp looks cancelled gone step =>
    rw [step] at hm ⊢
    refine ⟨gone, ?_⟩
    rintro addr rfl
    exact ⟨by simpa using hm, _, looks, cancelled⟩
  | ends gone result_ne step =>
    rw [step] at hm ⊢
    refine ⟨gone, ?_⟩
    rintro addr rfl
    exact absurd (by simpa [eq_comm] using hm) (result_ne addr)
  | @begins host addresses s' said lookup waiting step said_none =>
    have hc : (s.step e).1.cancelled = s'.cancelled := by
      rw [step, cancelled_reach]
    rw [step] at hm ⊢
    have hm : .finished id result ∈ (s'.attemptNext id request
        (.begin (candidates addresses (request.order addresses.length) target.port))).2 := by
      rcases List.mem_append.1 hm with hm | hm
      · simpa [CacheEffect.task?] using said_none _ hm
      · exact List.mem_of_ne_of_mem (by simp) hm
    obtain ⟨hgone, hfinds⟩ := (attemptNext_spec waiting request target _).2 result hm
    refine ⟨hgone, fun addr hr => ?_⟩
    obtain ⟨haddr, hleft, htoken⟩ := hfinds addr hr
    exact ⟨haddr, _, .beforeFirst lookup hleft, hc ▸ htoken⟩
  | @goesOn attempts error cancels s' outcome attempting not_cancelled waiting step =>
    have hc : (s.step e).1.cancelled = s'.cancelled := by
      rw [step, cancelled_attemptNext]
    rw [step] at hm ⊢
    obtain ⟨hgone, hfinds⟩ := (attemptNext_spec waiting request target _).2 result hm
    refine ⟨hgone, fun addr hr => ?_⟩
    obtain ⟨haddr, hleft, htoken⟩ := hfinds addr hr
    subst outcome
    exact ⟨haddr, _, .beforeNext error cancels attempting not_cancelled hleft, hc ▸ htoken⟩

/-- What becomes of a dial that gives up. Where it finds its token cancelled as it looks for
something, what has come is dropped and the entries stay as they are. -/
structure CacheState.GivesUp (s : CacheState) (id : Nat) (request : DialRequest)
    (r : Stepped γ) : Prop where
  gone : r.1.task? id = none
  results : resultsOf id r.2 = [.dialed (.error (.cancelled request.addr))]
  connects : connectsOf id r.2 = []
  asked : asked r.2 = []
  entries : request.token ∈ s.cancelled → r.1.entries = s.entries

theorem CacheState.GivesUp.of_gone {s t : CacheState} {id : Nat} (request : DialRequest)
    (hgone : t.task? id = none) (hentries : request.token ∈ s.cancelled → t.entries = s.entries) :
    s.GivesUp id request
      ((t, [.finished id (.dialed (.error (.cancelled request.addr)))]) : Stepped γ) :=
  ⟨hgone, by simp [resultsOf], rfl, rfl, hentries⟩

theorem CacheState.asked_of_lookedUp {s : CacheState} {e : CacheEvent γ} {id : Nat}
    {host : String} {result : Except ResolutionError (List String)}
    (h : s.lookedUp? e = some (id, host, result)) : asked (s.step e).2 = [] := by
  rcases lookedUp_cases h with ⟨request, goal, addresses, rfl, -, hs, hk, -⟩
    | ⟨goal, flight, answer, hended, -, -⟩
  · exact (lookUp_known hk hs).2
  · obtain ⟨cancelled, -, hstep⟩ := step_of_ended hended
    have hreach : ∀ (t : CacheState) (r : Except ResolutionError (List String)),
        asked (t.reach id flight.host goal r : Stepped γ).2 = [] :=
      fun t r => asked_of_task (Stepped.Drops.reach t id flight.host goal r).effects
    rw [hstep]
    simp only [conclude, endLookup]
    split
    · exact hreach _ _
    · exact hreach _ _

/-- A dial that finds its token cancelled gives up, whatever has come. This goes by where it looks:
a `DialStep` in which it waits on does not say whether it has looked. -/
theorem CacheState.Dialing.givesUp {s : CacheState} (hn : s.Numbered) {id : Nat}
    {request : DialRequest} {target : Target} {e : CacheEvent γ}
    (h : s.Dialing id request target e) (hf : s.FindsCancelled id request target e) :
    s.GivesUp id request (s.step e) := by
  obtain ⟨cancelled, hlooks, hc⟩ := hf
  cases hlooks with
  | atStart hid =>
    rcases h with ⟨-, -, hparse⟩ | h
    · rw [step_start_cancelled hparse hc, hid]
      exact .of_gone request (hid ▸ hn.task?_nextTask) fun _ => rfl
    · exact absurd h.id_lt (by rw [hid]; exact Nat.lt_irrefl _)
  | @atLookup flight answer cancels ht =>
    have ho : s.owner? flight.call = some (.lookup id (.dial request target.port) flight) :=
      hn.owner?_of_task (mem_tasks_of_task? ht) (if_pos rfl)
    have hstep : s.step (.answer flight.call answer cancels : CacheEvent γ)
        = (s.removeTask id, [.finished id (.dialed (.error (.cancelled request.addr)))]) := by
      simp [step, takeAnswer, ho, Goal.cancelled?, isCancelled, hc]
    rw [hstep]
    exact .of_gone request (s.task?_removeTask_self id) fun _ => rfl
  | atAttempt outcome cancels ht =>
    rw [step_outcome_cancelled ht hc]
    exact .of_gone request (s.task?_removeTask_self id) fun _ => rfl
  | beforeFirst hl hleft =>
    obtain ⟨s', said, -, hstep, hsaid⟩ := h.step_of_lookedUp hn hl
    have hasked := asked_of_lookedUp hl
    rw [hstep, cancelled_reach] at hc
    have hleft : (Attempts.begin (candidates _ _ _)).left ≠ [] := hleft
    simp only [hstep, reach, attemptNext_cancelled hc hleft] at hasked ⊢
    have hnothing : ∀ effect ∈ said, effect.task? ≠ some id :=
      fun effect hm => by simp [hsaid effect hm]
    obtain ⟨hconnects, hresults⟩ := connectsOf_eq_nil hnothing
    refine ⟨s'.task?_removeTask_self id, ?_, ?_, hasked,
      fun hm => absurd hm (h.not_cancelled_of_lookedUp hn hl)⟩
    · rw [resultsOf_append, hresults]
      simp [resultsOf]
    · rw [connectsOf_append, hconnects]
      rfl
  | @beforeNext attempts error cancels ht hnot hleft =>
    obtain ⟨cancelled, hstep⟩ :=
      step_outcome ht hnot (some (.error error) : Option (Except IoError γ)) cancels
    simp only [hstep, cancelled_attemptNext] at hc ⊢
    have hleft : (attempts.failed error).left ≠ [] := hleft
    rw [attemptNext_cancelled hc hleft]
    exact .of_gone request (task?_removeTask_self _ id) fun hm => absurd hm hnot

/-! ## Runs with a dial -/

theorem CacheState.nextTask_of_dial (s : CacheState) (hn : s.Numbered) (request : DialRequest) :
    (s.step (.start (.dial request) : CacheEvent γ)).1.nextTask = s.nextTask + 1 := by
  rcases s.start_cases (γ := γ) (.dial request) with ⟨host, goal, hs, -⟩ | ⟨hosts, h⟩
    | ⟨error, -, h⟩
  · exact nextTask_of_sought hn hs
  · simp at h
  · rw [step, h]

theorem CacheState.Dialing.dials {s : CacheState} (hn : s.Numbered) {id : Nat}
    {request : DialRequest} {target : Target} {e : CacheEvent γ}
    (h : s.Dialing id request target e) : (s.step e).1.Dials id request target := by
  refine ⟨?_, (h.dialStep hn).task⟩
  rcases h with ⟨rfl, rfl, -⟩ | h
  · rw [nextTask_of_dial s hn]
    exact Nat.lt_succ_self _
  · exact Nat.lt_of_lt_of_le h.id_lt (hn.nextTask_after [e])

theorem CacheState.Dials.after {s : CacheState} (hn : s.Numbered) {id : Nat}
    {request : DialRequest} {target : Target} (h : s.Dials id request target)
    (es : List (CacheEvent γ)) : (s.after es).Dials id request target := by
  induction es generalizing s with
  | nil => exact h
  | cons e es ih => exact ih (hn.step e) (Dialing.dials hn (.inr h))

/-- Every step of a run that begins with a dial starts it or comes after that. -/
theorem CacheState.Numbered.dialing {s : CacheState} (hn : s.Numbered) {request : DialRequest}
    {target : Target} (hparse : Target.parse request.addr = .ok target)
    {es before after : List (CacheEvent γ)} {e : CacheEvent γ}
    (hrun : .start (.dial request) :: es = before ++ e :: after) :
    (s.after before).Dialing s.nextTask request target e := by
  rcases before with _ | ⟨first, before⟩
  · obtain ⟨rfl, -⟩ : .start (.dial request) = e ∧ es = after := by simpa using hrun
    exact .inl ⟨rfl, rfl, hparse⟩
  · obtain ⟨rfl, -⟩ : .start (.dial request) = first ∧ es = before ++ e :: after := by
      simpa using hrun
    exact .inr ((Dialing.dials hn (.inl ⟨rfl, rfl, hparse⟩)).after (hn.step _) before)

/-- The failure of the first attempt cancels the token, so there is no second. -/
example :
    let request : DialRequest := ⟨"tcp", "db:80", fun _ => [0, 1], .single 0⟩
    let run : List (CacheEvent Unit) :=
      [.start (.dial request), .answer 0 (some (.ok ["10.0.0.1", "10.0.0.2"])) none,
        .outcome 0 (some (.error (noSuchHost "db"))) (some (.single 0))]
    connectsOf 0 ((CacheState.fresh .default ⟨0⟩).effects run) = [("tcp", "10.0.0.1:80")] := by
  decide +kernel

end HostDialing

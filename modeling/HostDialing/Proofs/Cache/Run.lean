import HostDialing.Cache.Step
import Mathlib.Data.List.Induction

/-!
# Runs of a cache

A run is a list of events in the order in which they happen; any list of events is one, so requests,
answers, deadlines, clears and stops interleave in every way. `CacheState.after` is the state that
a run leads to and `CacheState.effects` what it does to the world.

A step is read through what happens in it: `CacheState.sought?` is the lookup that a request makes,
`CacheState.ended?` the question that ends where a task looks for its answer, and
`CacheState.lookedUp?` what the lookup of a task comes to.
-/

namespace HostDialing

variable {γ : Type}

/-- The state that a run leads to. -/
def CacheState.after (s : CacheState) : List (CacheEvent γ) → CacheState
  | [] => s
  | e :: es => (s.step e).1.after es

/-- What a run does to the world, in order. -/
def CacheState.effects (s : CacheState) : List (CacheEvent γ) → List (CacheEffect γ)
  | [] => []
  | e :: es => (s.step e).2 ++ (s.step e).1.effects es

/-- A run of a cache without entries leads to the state. -/
def CacheState.Reachable (γ : Type) (s : CacheState) : Prop :=
  ∃ settings now, ∃ es : List (CacheEvent γ), (CacheState.fresh settings now).after es = s

@[simp]
theorem CacheState.after_append (es es' : List (CacheEvent γ)) :
    ∀ s : CacheState, s.after (es ++ es') = (s.after es).after es' := by
  induction es with
  | nil => intro s; rfl
  | cons e es ih => intro s; exact ih _

@[simp]
theorem CacheState.effects_append (es es' : List (CacheEvent γ)) :
    ∀ s : CacheState, s.effects (es ++ es') = s.effects es ++ (s.after es).effects es' := by
  induction es with
  | nil => intro s; rfl
  | cons e es ih =>
    intro s
    simp only [List.cons_append, effects, after, ih, List.append_assoc]

theorem CacheState.after_singleton (s : CacheState) (e : CacheEvent γ) :
    s.after [e] = (s.step e).1 := rfl

theorem CacheState.effects_singleton (s : CacheState) (e : CacheEvent γ) :
    s.effects [e] = (s.step e).2 := List.append_nil _

theorem CacheState.reachable_default : (CacheState.fresh .default ⟨0⟩).Reachable γ :=
  ⟨.default, ⟨0⟩, [], rfl⟩

/-- What a fresh cache has and each step keeps, every reachable state has. -/
theorem CacheState.Reachable.invariant {s : CacheState} (h : s.Reachable γ)
    (Inv : CacheState → Prop) (hfresh : ∀ settings now, Inv (CacheState.fresh settings now))
    (hstep : ∀ s (e : CacheEvent γ), Inv s → Inv (s.step e).1) : Inv s := by
  obtain ⟨settings, now, es, rfl⟩ := h
  induction es using List.reverseRecOn with
  | nil => exact hfresh settings now
  | append_singleton es e ih =>
    rw [after_append]
    exact hstep _ e ih

/-- The questions that effects begin. -/
def asked (effects : List (CacheEffect γ)) : List Flight :=
  effects.filterMap fun
    | .resolve flight => some flight
    | _ => none

/-- The lookup that a request makes: its host, and what the addresses are wanted for. A refresh
makes none, nor does a dial without a target or under a cancelled token. -/
def CacheState.sought? (s : CacheState) : Request → Option (String × Goal)
  | .lookup host => some (host, .addresses)
  | .prewarm host => some (host, .warmth)
  | .sockets host order => some (host, .sockets order)
  | .dial request =>
    match Target.parse request.addr with
    | .error _ => none
    | .ok target =>
      if s.isCancelled request.token then none
      else some (target.host, .dial request target.port)
  | .refresh _ => none

def Owner.flight : Owner → Flight
  | lookup _ _ flight => flight
  | refresh _ _ flight => flight
  | background _ _ flight => flight

/-- The error of the dial that gives up instead of looking for the answer. -/
def Owner.cancelled? (s : CacheState) : Owner → Option DialError
  | lookup _ goal _ => goal.cancelled? s
  | _ => none

/-- The question that ends where its task looks for the answer, and the answer that counts. -/
def CacheState.ended? (s : CacheState) : CacheEvent γ → Option (Owner × Option Answer)
  | .answer call answer _ =>
    match s.owner? call with
    | none => none
    | some owner =>
      match owner.cancelled? s with
      | some _ => none
      | none => (owner.flight.outcome? s.now answer).map (owner, ·)
  | _ => none

/-- What the end of a question leads to. -/
def CacheState.conclude (s : CacheState) (answer : Option Answer) : Owner → Stepped γ
  | .lookup id goal flight => s.endLookup id goal flight answer
  | .refresh id pass flight =>
    let (pass, s, effects) := s.endQuestion pass flight answer
    let (s, ended) := s.keepRefresh id pass
    (s, effects ++ ended)
  | .background ticker pass flight =>
    let (pass, s, effects) := s.endQuestion pass flight answer
    (s.keepBackground ticker pass, effects)

/-- What the lookup of a task comes to in a step, with its host: the addresses of a known host at
once, those of another, or the error for it, when the question ends. -/
def CacheState.lookedUp? (s : CacheState) (e : CacheEvent γ) :
    Option (Nat × String × Except ResolutionError (List String)) :=
  match e, s.ended? e with
  | .start request, _ =>
    match s.sought? request with
    | none => none
    | some (host, _) =>
      (s.entries.known? host).map fun addresses => (s.nextTask, host, .ok addresses)
  | _, some (.lookup id _ flight, answer) =>
    some (id, flight.host, resolved flight.host s.settings.lookupTimeout answer)
  | _, _ => none

/-- A run in which a task was started that looks up a host for a goal. -/
def CacheState.Sought (s : CacheState) (es : List (CacheEvent γ)) (id : Nat) (host : String)
    (goal : Goal) : Prop :=
  ∃ before request after, es = before ++ .start request :: after ∧
    (s.after before).nextTask = id ∧ (s.after before).sought? request = some (host, goal)

theorem CacheState.cancelBy_eq (s : CacheState) (hasCome : Bool) (cancels : Option Token) :
    ∃ cancelled, s.cancelled ⊆ cancelled
      ∧ s.cancelBy hasCome cancels = { s with cancelled := cancelled } := by
  unfold cancelBy
  split
  · exact ⟨_, List.subset_cons_self _ _, rfl⟩
  · exact ⟨_, List.Subset.refl _, rfl⟩

theorem CacheState.start_of_sought {s : CacheState} {request : Request} {host : String}
    {goal : Goal} (h : s.sought? request = some (host, goal)) :
    (s.start request : Stepped γ)
      = { s with nextTask := s.nextTask + 1 }.lookUp s.nextTask host goal := by
  rcases request with host' | host' | ⟨host', order⟩ | request | hosts
  · obtain ⟨rfl, rfl⟩ : host' = host ∧ Goal.addresses = goal := by simpa [sought?] using h
    rfl
  · obtain ⟨rfl, rfl⟩ : host' = host ∧ Goal.warmth = goal := by simpa [sought?] using h
    rfl
  · obtain ⟨rfl, rfl⟩ : host' = host ∧ Goal.sockets order = goal := by simpa [sought?] using h
    rfl
  · simp only [sought?] at h
    split at h
    · simp at h
    · rename_i target hparse
      split_ifs at h with hc
      obtain ⟨rfl, rfl⟩ : target.host = host ∧ Goal.dial request target.port = goal := by
        simpa using h
      have hc' : ¬ ({ s with nextTask := s.nextTask + 1 } : CacheState).isCancelled request.token :=
        hc
      simp only [start, hparse, if_neg hc']
  · simp [sought?] at h

/-- A request looks a host up, or refreshes, or is a dial that fails at once. -/
theorem CacheState.start_cases (s : CacheState) (request : Request) :
    (∃ host goal, s.sought? request = some (host, goal)
      ∧ (s.start request : Stepped γ)
        = { s with nextTask := s.nextTask + 1 }.lookUp s.nextTask host goal)
    ∨ (∃ hosts, request = .refresh hosts)
    ∨ ∃ error, s.sought? request = none
      ∧ (s.start request : Stepped γ)
        = ({ s with nextTask := s.nextTask + 1 },
          [.finished s.nextTask (.dialed (.error error))]) := by
  rcases hs : s.sought? request with _ | ⟨host, goal⟩
  case some => exact .inl ⟨host, goal, rfl, start_of_sought hs⟩
  rcases request with host | host | ⟨host, order⟩ | request | hosts
  case dial =>
    simp only [sought?] at hs
    split at hs
    · rename_i error hparse
      exact .inr (.inr ⟨error, rfl, by simp only [start, hparse]⟩)
    · rename_i target hparse
      split_ifs at hs with hc
      have hc' : ({ s with nextTask := s.nextTask + 1 } : CacheState).isCancelled request.token :=
        hc
      exact .inr (.inr ⟨.cancelled request.addr, rfl, by simp only [start, hparse, if_pos hc']⟩)
  case refresh => exact .inr (.inl ⟨hosts, rfl⟩)
  all_goals simp [sought?] at hs

/-- Only an answer that is looked for ends a question. -/
theorem CacheState.answer_of_ended {s : CacheState} {e : CacheEvent γ}
    {ended : Owner × Option Answer} (h : s.ended? e = some ended) :
    ∃ call answer cancels, e = .answer call answer cancels := by
  rcases e with request | ⟨call, answer, cancels⟩ | ⟨task, outcome, cancels⟩ | token | task
    | _ | _ | _ | hosts | nanos
  case answer => exact ⟨call, answer, cancels, rfl⟩
  all_goals simp [ended?] at h

theorem CacheState.owner_of_ended {s : CacheState} {call : Nat} {answer : Option Answer}
    {cancels : Option Token} {owner : Owner} {a : Option Answer}
    (h : s.ended? (.answer call answer cancels : CacheEvent γ) = some (owner, a)) :
    s.owner? call = some owner ∧ owner.cancelled? s = none
      ∧ owner.flight.outcome? s.now answer = some a := by
  simp only [ended?] at h
  split at h
  · simp at h
  rename_i owner' ho
  split at h
  · simp at h
  rename_i hc
  obtain ⟨a', ha, hp⟩ := Option.map_eq_some_iff.1 h
  obtain ⟨rfl, rfl⟩ : owner' = owner ∧ a' = a := by simpa using hp
  exact ⟨ho, hc, ha⟩

/-- The end of a question. What has come with the answer may have cancelled a token. -/
theorem CacheState.step_of_ended {s : CacheState} {e : CacheEvent γ} {owner : Owner}
    {a : Option Answer} (h : s.ended? e = some (owner, a)) :
    ∃ cancelled, s.cancelled ⊆ cancelled
      ∧ s.step e = { s with cancelled := cancelled }.conclude a owner := by
  obtain ⟨call, answer, cancels, rfl⟩ := answer_of_ended h
  obtain ⟨ho, hc, ha⟩ := owner_of_ended h
  obtain ⟨cancelled, hk, hs⟩ := s.cancelBy_eq answer.isSome cancels
  refine ⟨cancelled, hk, ?_⟩
  rcases owner with ⟨id, goal, flight⟩ | ⟨id, pass, flight⟩ | ⟨ticker, pass, flight⟩
  · have hc : goal.cancelled? s = none := hc
    have ha : flight.outcome? s.now answer = some a := ha
    simp only [step, takeAnswer, ho, hc, hs, ha, conclude]
  · have ha : flight.outcome? s.now answer = some a := ha
    simp only [step, takeAnswer, ho, hs, ha, conclude]
  · have ha : flight.outcome? s.now answer = some a := ha
    simp only [step, takeAnswer, ho, hs, ha, conclude]

/-- Where a task looks for an answer its question ends, or it waits on, or it is a dial that finds
its token cancelled. -/
theorem CacheState.answer_cases (s : CacheState) (call : Nat) (answer : Option Answer)
    (cancels : Option Token) :
    let e : CacheEvent γ := .answer call answer cancels
    (∃ owner a cancelled, s.ended? e = some (owner, a) ∧ s.owner? call = some owner
      ∧ s.cancelled ⊆ cancelled
      ∧ s.step e = { s with cancelled := cancelled }.conclude a owner)
    ∨ (∃ cancelled, s.ended? e = none ∧ s.cancelled ⊆ cancelled
      ∧ s.step e = ({ s with cancelled := cancelled }, []))
    ∨ ∃ id goal flight error, s.ended? e = none ∧ s.owner? call = some (.lookup id goal flight)
      ∧ goal.cancelled? s = some error
      ∧ s.step e = (s.removeTask id, [.finished id (.dialed (.error error))]) := by
  intro e
  rcases h : s.ended? e with _ | ⟨owner, a⟩
  case some =>
    obtain ⟨cancelled, hk, hstep⟩ := step_of_ended h
    exact .inl ⟨owner, a, cancelled, rfl, (owner_of_ended h).1, hk, hstep⟩
  obtain ⟨cancelled, hk, hs⟩ := s.cancelBy_eq answer.isSome cancels
  simp only [e, ended?] at h
  rcases ho : s.owner? call with _ | ⟨id, goal, flight⟩ | ⟨id, pass, flight⟩
      | ⟨ticker, pass, flight⟩ <;> simp only [ho] at h
  · exact .inr (.inl ⟨s.cancelled, rfl, List.Subset.refl _, by simp only [e, step, takeAnswer, ho]⟩)
  · rcases hc : goal.cancelled? s with _ | error
    · simp only [Owner.cancelled?, hc, Option.map_eq_none_iff, Owner.flight] at h
      exact .inr (.inl ⟨cancelled, rfl, hk, by simp only [e, step, takeAnswer, ho, hc, hs, h]⟩)
    · exact .inr (.inr ⟨id, goal, flight, error, rfl, rfl, hc,
        by simp only [e, step, takeAnswer, ho, hc]⟩)
  · simp only [Owner.cancelled?, Option.map_eq_none_iff, Owner.flight] at h
    exact .inr (.inl ⟨cancelled, rfl, hk, by simp only [e, step, takeAnswer, ho, hs, h]⟩)
  · simp only [Owner.cancelled?, Option.map_eq_none_iff, Owner.flight] at h
    exact .inr (.inl ⟨cancelled, rfl, hk, by simp only [e, step, takeAnswer, ho, hs, h]⟩)

/-- Where a dial looks for the outcome of its attempt it waits on, or ends, or goes on. -/
theorem CacheState.outcome_cases (s : CacheState) (id : Nat)
    (outcome : Option (Except IoError γ)) (cancels : Option Token) :
    ∃ cancelled, s.cancelled ⊆ cancelled
      ∧ (s.step (.outcome id outcome cancels) = ({ s with cancelled := cancelled }, [])
      ∨ (∃ result, s.step (.outcome id outcome cancels)
        = ({ s with cancelled := cancelled }.removeTask id, [.finished id (.dialed result)]))
      ∨ ∃ request attempts, s.step (.outcome id outcome cancels)
        = { s with cancelled := cancelled }.attemptNext id request attempts) := by
  obtain ⟨cancelled, hk, hs⟩ := s.cancelBy_eq outcome.isSome cancels
  simp only [step, takeOutcome, hs]
  split
  · rename_i request attempts _
    split_ifs
    · exact ⟨s.cancelled, List.Subset.refl _, .inr (.inl ⟨_, rfl⟩)⟩
    · refine ⟨cancelled, hk, ?_⟩
      rcases outcome with _ | error | connection
      · exact .inl rfl
      · exact .inr (.inr ⟨request, attempts.failed error, rfl⟩)
      · exact .inr (.inl ⟨_, rfl⟩)
  · exact ⟨s.cancelled, List.Subset.refl _, .inl rfl⟩

end HostDialing

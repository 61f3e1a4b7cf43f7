import HostDialing.Proofs.Cache.Writes

/-!
# Entries are answers

Each entry is, whole and in order, one answer that the resolver gave in time to a question for that
host, and it is never empty. What a lookup returns is the entry of its host at that moment, so the
same holds of every list that is returned (`entries_single_answers`). The two writers of entries
write what a question in the air has brought, and every question in the air was asked before
(`flights_asked`).
-/

namespace HostDialing

variable {γ : Type}

/-- In a run the resolver was asked for a host, and gave these addresses while the question was
waited for and its deadline had not passed. -/
def CacheState.Gave (s : CacheState) (es : List (CacheEvent γ)) (host : String)
    (addresses : List String) : Prop :=
  ∃ before flight cancels after,
    es = before ++ .answer flight.call (some (.ok addresses)) cancels :: after
      ∧ flight.host = host ∧ flight ∈ asked (s.effects before)
      ∧ flight ∈ (s.after before).flights ∧ (s.after before).now ≤ flight.deadline

theorem CacheState.Gave.append {s : CacheState} {es : List (CacheEvent γ)} {host : String}
    {addresses : List String} (h : s.Gave es host addresses) (es' : List (CacheEvent γ)) :
    s.Gave (es ++ es') host addresses := by
  obtain ⟨before, flight, cancels, after, rfl, h⟩ := h
  exact ⟨before, flight, cancels, after ++ es', by simp, h⟩

theorem CacheState.Sought.append {s : CacheState} {es : List (CacheEvent γ)} {id : Nat}
    {host : String} {goal : Goal} (h : s.Sought es id host goal) (es' : List (CacheEvent γ)) :
    s.Sought (es ++ es') id host goal := by
  obtain ⟨before, request, after, rfl, h⟩ := h
  exact ⟨before, request, after ++ es', by simp, h⟩

theorem CacheState.mem_effects {s : CacheState} {es : List (CacheEvent γ)}
    {effect : CacheEffect γ} (h : effect ∈ s.effects es) :
    ∃ before e after, es = before ++ e :: after ∧ effect ∈ ((s.after before).step e).2 := by
  induction es generalizing s with
  | nil => simp [effects] at h
  | cons e es ih =>
    rcases List.mem_append.1 h with h | h
    · exact ⟨[], e, es, rfl, h⟩
    · obtain ⟨before, e', after, rfl, he⟩ := ih h
      exact ⟨e :: before, e', after, rfl, he⟩

theorem Flight.answer_of_outcome {f : Flight} {now : Instant} {answer : Option Answer} {a : Answer}
    (h : f.outcome? now answer = some (some a)) : answer = some a ∧ now ≤ f.deadline := by
  unfold outcome? at h
  split at h <;> split_ifs at h with hd <;> simp at h
  exact ⟨congrArg some h, hd⟩

theorem resolved_eq_ok {host : String} {limit : Duration} {answer : Option Answer}
    {addresses : List String} (h : resolved host limit answer = .ok addresses) :
    answer = some (.ok addresses) ∧ addresses ≠ [] := by
  unfold resolved at h
  split at h <;> simp at h
  rename_i hne
  subst h
  exact ⟨rfl, hne⟩

theorem resolved_of_ne_nil {addresses : List String} (h : addresses ≠ []) (host : String)
    (limit : Duration) : resolved host limit (some (.ok addresses)) = .ok addresses := by
  cases addresses with
  | nil => exact absurd rfl h
  | cons => rfl

/-- The questions of a run are numbered as they are asked. -/
theorem CacheState.asked_calls {s : CacheState} (h : s.Numbered) (es : List (CacheEvent γ)) :
    (s.after es).nextCall = s.nextCall + (asked (s.effects es)).length
      ∧ (asked (s.effects es)).map Flight.call
        = List.range' s.nextCall (asked (s.effects es)).length := by
  induction es generalizing s with
  | nil => exact ⟨rfl, rfl⟩
  | cons e es ih =>
    have hc := step_counted h e
    obtain ⟨h1, h2⟩ := ih (h.step e)
    simp only [after, effects, asked_append, List.length_append, List.map_append]
    rw [h1, h2, hc.calls, hc.nextCall, List.range'_append_1]
    exact ⟨by omega, rfl⟩

theorem CacheState.call_lt_of_asked (settings : Settings) (now : Instant)
    (es : List (CacheEvent γ)) :
    ∀ flight ∈ asked ((CacheState.fresh settings now).effects es),
      flight.call < ((CacheState.fresh settings now).after es).nextCall := by
  intro flight hf
  obtain ⟨hnext, hcalls⟩ := asked_calls (γ := γ) (numbered_fresh settings now) es
  have hm : flight.call ∈ (asked ((fresh settings now).effects es)).map Flight.call :=
    List.mem_map_of_mem hf
  rw [hcalls, List.mem_range'_1] at hm
  rw [hnext]
  exact hm.2

/-- Every question in the air was asked in the run. -/
theorem CacheState.flights_asked (settings : Settings) (now : Instant)
    (es : List (CacheEvent γ)) :
    ∀ flight ∈ ((CacheState.fresh settings now).after es).flights,
      flight ∈ asked ((CacheState.fresh settings now).effects es) := by
  induction es using List.reverseRecOn with
  | nil =>
    intro flight hf
    rw [after, flights_fresh] at hf
    simp at hf
  | append_singleton es e ih =>
    intro flight hf
    have hn : ((CacheState.fresh settings now).after es).Numbered :=
      (numbered_fresh settings now).after es
    rw [after_append] at hf
    rw [effects_append, asked_append, effects_singleton]
    rcases List.mem_append.1 ((step_counted hn e).flights.subset hf) with hf | hf
    · exact List.mem_append_left _ (ih flight hf)
    · exact List.mem_append_right _ hf

/-- What a question that ends brings was given by the resolver, in time and for its host. -/
theorem CacheState.gave_of_ended {settings : Settings} {now : Instant}
    {before : List (CacheEvent γ)} {e : CacheEvent γ} {owner : Owner} {answer : Option Answer}
    (h : ((CacheState.fresh settings now).after before).ended? e = some (owner, answer))
    {limit : Duration} {addresses : List String}
    (ha : resolved owner.flight.host limit answer = .ok addresses) :
    addresses ≠ []
      ∧ (CacheState.fresh settings now).Gave (before ++ [e]) owner.flight.host addresses := by
  obtain ⟨rfl, hne⟩ := resolved_eq_ok ha
  obtain ⟨call, given, cancels, rfl⟩ := answer_of_ended h
  obtain ⟨ho, -, hout⟩ := owner_of_ended h
  obtain ⟨hw, rfl⟩ := owner?_spec ho
  obtain ⟨rfl, hd⟩ := Flight.answer_of_outcome hout
  have hf := hw.flight_mem
  exact ⟨hne, before, owner.flight, cancels, [], rfl, rfl, flights_asked settings now before _ hf,
    hf, hd⟩

theorem CacheState.lookedUp_cases {s : CacheState} {e : CacheEvent γ} {id : Nat} {host : String}
    {result : Except ResolutionError (List String)} (h : s.lookedUp? e = some (id, host, result)) :
    (∃ request goal addresses, e = .start request ∧ id = s.nextTask
      ∧ s.sought? request = some (host, goal) ∧ s.entries.known? host = some addresses
      ∧ result = .ok addresses)
    ∨ ∃ goal flight answer, s.ended? e = some (.lookup id goal flight, answer)
      ∧ flight.host = host ∧ result = resolved host s.settings.lookupTimeout answer := by
  rcases e with request | ⟨call, given, cancels⟩ | ⟨task, outcome, cancels⟩ | token | task
    | _ | _ | _ | hosts | nanos
  case start =>
    simp only [lookedUp?] at h
    split at h
    · simp at h
    · rename_i host' goal hs
      obtain ⟨addresses, hk, hp⟩ := Option.map_eq_some_iff.1 h
      simp only [Prod.mk.injEq] at hp
      obtain ⟨rfl, rfl, rfl⟩ := hp
      exact .inl ⟨request, goal, addresses, rfl, rfl, hs, hk, rfl⟩
  case answer =>
    rcases hended : s.ended? (.answer call given cancels : CacheEvent γ) with _ | ⟨owner, answer⟩
    · simp [lookedUp?, hended] at h
    rcases owner with ⟨id', goal, flight⟩ | ⟨id', pass, flight⟩ | ⟨ticker, pass, flight⟩
    · simp only [lookedUp?, hended, Option.some.injEq, Prod.mk.injEq] at h
      obtain ⟨rfl, rfl, rfl⟩ := h
      exact .inr ⟨goal, flight, answer, rfl, rfl, rfl⟩
    · simp [lookedUp?, hended] at h
    · simp [lookedUp?, hended] at h
  all_goals simp [lookedUp?, ended?] at h

/-- A task whose lookup comes to something does with it what it was wanted for. -/
theorem CacheState.step_of_lookedUp {s : CacheState} (hn : s.Numbered) {e : CacheEvent γ}
    {id : Nat} {host : String} {result : Except ResolutionError (List String)}
    (h : s.lookedUp? e = some (id, host, result)) :
    ∃ goal, ∃ s' : CacheState, ∃ said,
      ((∃ request, e = .start request ∧ id = s.nextTask ∧ s.sought? request = some (host, goal))
        ∨ ∃ flight, s.task? id = some (.resolving goal flight) ∧ flight.host = host)
      ∧ (s'.task? id).isSome
      ∧ s.step e = ((s'.reach id host goal result : Stepped γ).1,
        said ++ (s'.reach id host goal result).2)
      ∧ ∀ effect ∈ said, effect.task? = none := by
  rcases lookedUp_cases h with ⟨request, goal, known, rfl, rfl, hs, hk, rfl⟩
    | ⟨goal, flight, answer, hended, rfl, ha⟩
  · set s' := ({ s with nextTask := s.nextTask + 1 } : CacheState).addTask s.nextTask
      (.resolving goal (Flight.start s.nextCall host s.now s.settings.lookupTimeout))
    refine ⟨goal, s', [], .inl ⟨request, rfl, rfl, hs⟩, ?_, ?_, by simp⟩
    · exact Option.isSome_iff_exists.2
        ⟨_, task?_addTask_self (s := { s with nextTask := s.nextTask + 1 }) _ hn.task?_nextTask⟩
    · simp only [step, start_of_sought hs, lookUp, hk, List.nil_append]
      rfl
  · have ht := hn.task?_of_mem (waits_of_ended hended)
    obtain ⟨cancelled, -, hstep⟩ := step_of_ended hended
    rcases result with error | addresses
    · refine ⟨goal, { s with cancelled := cancelled }, [], .inr ⟨flight, ht, rfl⟩, ?_, ?_, by simp⟩
      · exact Option.isSome_iff_exists.2 ⟨_, ht⟩
      · rw [hstep]
        simp only [conclude, endLookup, ← ha, List.nil_append]
    · refine ⟨goal, { s with
        cancelled := cancelled
        entries := s.entries.insert flight.host addresses }, [.learned flight.host addresses],
        .inr ⟨flight, ht, rfl⟩, ?_, ?_, by simp [CacheEffect.task?]⟩
      · exact Option.isSome_iff_exists.2 ⟨_, ht⟩
      · rw [hstep]
        simp only [conclude, endLookup, ← ha]
        rfl

theorem Entries.known?_eq_some {e : Entries} {host : String} {addresses : List String} :
    e.known? host = some addresses ↔ e.get? host = some addresses ∧ addresses ≠ [] := by
  simp [known?, Option.filter_eq_some_iff]

/-- The list that a lookup returns is the entry of its host as the lookup leaves it. -/
theorem CacheState.entry_of_lookedUp {s : CacheState} {e : CacheEvent γ} {id : Nat}
    {host : String} {addresses : List String}
    (h : s.lookedUp? e = some (id, host, .ok addresses)) :
    (s.step e).1.entries.get? host = some addresses := by
  rcases lookedUp_cases h with ⟨request, goal, known, rfl, -, -, hk, ha⟩
    | ⟨goal, flight, answer, hended, rfl, ha⟩
  · obtain rfl : addresses = known := by simpa using ha
    rw [s.step_entries _ (by simp)]
    exact (Entries.known?_eq_some.1 hk).1
  · have hne : e ≠ .clear := by
      rintro rfl
      simp [ended?] at hended
    rw [s.step_entries e hne, hended]
    simp only [Owner.stored, Owner.flight, ← ha]
    rw [Entries.get?_insert, if_pos rfl]

theorem CacheState.attemptNext_tasks (s : CacheState) (id : Nat) (request : DialRequest)
    (attempts : Attempts) :
    ∀ entry ∈ (s.attemptNext id request attempts : Stepped γ).1.tasks,
      entry ∈ s.tasks ∨ ∃ request attempts, entry.2 = .attempting request attempts := by
  intro entry he
  unfold attemptNext at he
  split at he
  · exact .inl (List.mem_of_mem_filter he)
  · obtain ⟨entry', he', rfl⟩ := List.mem_map.1 he
    split_ifs
    · exact .inr ⟨_, _, rfl⟩
    · exact .inl he'

theorem CacheState.reach_tasks (s : CacheState) (id : Nat) (host : String) (goal : Goal)
    (result : Except ResolutionError (List String)) :
    ∀ entry ∈ (s.reach id host goal result : Stepped γ).1.tasks,
      entry ∈ s.tasks ∨ ∃ request attempts, entry.2 = .attempting request attempts := by
  intro entry he
  unfold reach at he
  split at he
  all_goals try exact .inl (List.mem_of_mem_filter he)
  exact s.attemptNext_tasks id _ _ entry he

theorem CacheState.keepRefresh_tasks (s : CacheState) (id : Nat) (p : Pass) :
    ∀ entry ∈ (s.keepRefresh id p : Stepped γ).1.tasks,
      entry ∈ s.tasks ∨ entry.2 = .refreshing p := by
  intro entry he
  unfold keepRefresh at he
  split at he
  · exact .inl (List.mem_of_mem_filter he)
  · obtain ⟨entry', he', rfl⟩ := List.mem_map.1 he
    split_ifs
    · exact .inr rfl
    · exact .inl he'

/-- A task that waits for the answer of a lookup waited before, or was started in the step. -/
theorem CacheState.resolving_of_step {s : CacheState} {e : CacheEvent γ} {id : Nat} {goal : Goal}
    {flight : Flight} (h : (id, .resolving goal flight) ∈ (s.step e).1.tasks) :
    (id, .resolving goal flight) ∈ s.tasks
      ∨ ∃ request, e = .start request ∧ s.nextTask = id
        ∧ s.sought? request = some (flight.host, goal) := by
  have hnone : ¬ ∃ request attempts, Task.resolving goal flight = .attempting request attempts := by
    simp
  rcases e with request | ⟨call, given, cancels⟩ | ⟨task, outcome, cancels⟩ | token | task
    | _ | _ | _ | hosts | nanos
  · rcases s.start_cases (γ := γ) request with ⟨host, goal', hs, he⟩ | ⟨hosts, rfl⟩
      | ⟨error, -, he⟩
    · have hadd : (id, Task.resolving goal flight) ∈ s.tasks ++ [(s.nextTask,
          .resolving goal' (Flight.start s.nextCall host s.now s.settings.lookupTimeout))] := by
        simp only [step, he, lookUp] at h
        split at h
        · exact (reach_tasks _ s.nextTask host goal' _ _ h).resolve_right hnone
        · exact h
      rcases List.mem_append.1 hadd with hm | hm
      · exact .inl hm
      · simp only [List.mem_singleton, Prod.mk.injEq, Task.resolving.injEq] at hm
        obtain ⟨rfl, rfl, rfl⟩ := hm
        exact .inr ⟨request, rfl, rfl, hs⟩
    · rcases keepRefresh_tasks _ s.nextTask _ _ h with h | h
      · rcases List.mem_append.1 h with h | h
        · exact .inl h
        · simp at h
      · simp at h
    · rw [step, he] at h
      exact .inl h
  · refine .inl ?_
    rcases s.answer_cases (γ := γ) call given cancels with ⟨owner, a, cancelled, -, -, -, hs⟩
      | ⟨cancelled, -, -, hs⟩ | ⟨id', goal', flight', error, -, -, -, hs⟩
    · rw [hs] at h
      rcases owner with ⟨id', goal', flight'⟩ | ⟨id', pass, flight'⟩ | ⟨ticker, pass, flight'⟩
      · simp only [conclude, endLookup] at h
        split at h
        · exact (reach_tasks _ id' flight'.host goal' _ _ h).resolve_right hnone
        · exact (reach_tasks _ id' flight'.host goal' _ _ h).resolve_right hnone
      · rcases keepRefresh_tasks _ id' _ _ h with h | h
        · exact h
        · simp at h
      · exact h
    · rw [hs] at h
      exact h
    · rw [hs] at h
      exact List.mem_of_mem_filter h
  · refine .inl ?_
    obtain ⟨cancelled, -, hs | ⟨result, hs⟩ | ⟨request, attempts, hs⟩⟩ :=
      s.outcome_cases task outcome cancels
    · rw [hs] at h
      exact h
    · rw [hs] at h
      exact List.mem_of_mem_filter h
    · rw [hs] at h
      exact (attemptNext_tasks _ task _ _ _ h).resolve_right hnone
  · exact .inl h
  · exact .inl (List.mem_of_mem_filter h)
  · exact .inl h
  · exact .inl h
  · exact .inl h
  · rw [step, (s.takeTick_only (γ := γ) hosts).1] at h
    exact .inl h
  · exact .inl h

theorem CacheState.sought_of_resolving (s : CacheState) (es : List (CacheEvent γ))
    (h : s.tasks = []) : ∀ {id goal flight}, (id, Task.resolving goal flight) ∈ (s.after es).tasks →
      s.Sought es id flight.host goal := by
  induction es using List.reverseRecOn with
  | nil =>
    intro id goal flight ht
    simp [after, h] at ht
  | append_singleton es e ih =>
    intro id goal flight ht
    rw [after_append] at ht
    rcases resolving_of_step ht with ht | ⟨request, rfl, hid, hs⟩
    · exact (ih ht).append [e]
    · exact ⟨es, request, [], rfl, hid, hs⟩

/-- Whatever a lookup comes to, a task was started to look the host up. -/
theorem CacheState.sought_of_lookedUp {settings : Settings} {now : Instant}
    {before : List (CacheEvent γ)} {e : CacheEvent γ} {id : Nat} {host : String}
    {result : Except ResolutionError (List String)}
    (h : ((CacheState.fresh settings now).after before).lookedUp? e = some (id, host, result)) :
    ∃ goal, (CacheState.fresh settings now).Sought (before ++ [e]) id host goal := by
  rcases lookedUp_cases h with ⟨request, goal, known, rfl, rfl, hs, -, -⟩
    | ⟨goal, flight, answer, hended, rfl, -⟩
  · exact ⟨goal, before, request, [], rfl, rfl, hs⟩
  · exact ⟨goal, (sought_of_resolving _ before rfl (waits_of_ended hended)).append _⟩

theorem CacheState.attemptNext_ne_addresses (s : CacheState) (id : Nat) (request : DialRequest)
    (attempts : Attempts) (task : Nat) (result : Except ResolutionError (List String)) :
    .finished task (.addresses result) ∉ (s.attemptNext id request attempts : Stepped γ).2 := by
  unfold attemptNext
  split <;> simp

theorem CacheState.reach_addresses {s : CacheState} {id task : Nat} {host : String} {goal : Goal}
    {result result' : Except ResolutionError (List String)}
    (h : .finished task (.addresses result') ∈ (s.reach id host goal result : Stepped γ).2) :
    task = id ∧ goal = .addresses ∧ result' = result := by
  unfold reach at h
  split at h
  case h_1 => simpa using h
  case h_6 =>
    have h := List.mem_of_ne_of_mem (by simp) h
    exact absurd h (attemptNext_ne_addresses _ id _ _ _ _)
  all_goals simp at h

theorem CacheState.keepRefresh_ne_addresses (s : CacheState) (id : Nat) (p : Pass) (task : Nat)
    (result : Except ResolutionError (List String)) :
    .finished task (.addresses result) ∉ (s.keepRefresh id p : Stepped γ).2 := by
  unfold keepRefresh
  split <;> simp

/-- What a lookup for addresses ends with is what it comes to. -/
theorem CacheState.lookedUp_of_finished {s : CacheState} {e : CacheEvent γ} {id : Nat}
    {result : Except ResolutionError (List String)}
    (h : .finished id (.addresses result) ∈ (s.step e).2) :
    ∃ host, s.lookedUp? e = some (id, host, result)
      ∧ ((∃ request, e = .start request ∧ s.sought? request = some (host, .addresses))
        ∨ ∃ flight answer, s.ended? e = some (.lookup id .addresses flight, answer)
          ∧ flight.host = host) := by
  rcases e with request | ⟨call, given, cancels⟩ | ⟨task, outcome, cancels⟩ | token | task
    | _ | _ | _ | hosts | nanos
  case start =>
    rcases s.start_cases (γ := γ) request with ⟨host, goal, hs, he⟩ | ⟨hosts, rfl⟩ | ⟨error, -, he⟩
    · simp only [step, he, lookUp] at h
      rcases hk : s.entries.known? host with _ | addresses
      · simp [hk] at h
      · simp only [hk] at h
        obtain ⟨rfl, rfl, rfl⟩ := reach_addresses h
        exact ⟨host, by simp [lookedUp?, hs, hk], .inl ⟨request, rfl, hs⟩⟩
    · rcases List.mem_append.1 h with h | h
      · simp at h
      · exact absurd h (keepRefresh_ne_addresses _ _ _ _ _)
    · simp [step, he] at h
  case answer =>
    rcases s.answer_cases (γ := γ) call given cancels with ⟨owner, a, cancelled, hended, -, -, hs⟩
      | ⟨_, -, -, hs⟩ | ⟨_, _, _, _, -, -, -, hs⟩
    case inr.inl => simp [hs] at h
    case inr.inr => simp [hs] at h
    rw [hs] at h
    rcases owner with ⟨id', goal, flight⟩ | ⟨id', pass, flight⟩ | ⟨ticker, pass, flight⟩
    · have hreach : id = id' ∧ goal = .addresses
          ∧ result = resolved flight.host s.settings.lookupTimeout a := by
        simp only [conclude, endLookup] at h
        split at h
        · rename_i addresses hr
          rw [hr]
          exact reach_addresses (List.mem_of_ne_of_mem (by simp) h)
        · rename_i error hr
          rw [hr]
          exact reach_addresses h
      obtain ⟨rfl, rfl, rfl⟩ := hreach
      exact ⟨flight.host, by simp [lookedUp?, hended], .inr ⟨flight, a, hended, rfl⟩⟩
    · rcases List.mem_append.1 h with h | h
      · have := (endQuestion_only _ pass flight a).2 _ h
        simp [CacheEffect.task?] at this
      · exact absurd h (keepRefresh_ne_addresses _ _ _ _ _)
    · have := (endQuestion_only _ pass flight a).2 _ h
      simp [CacheEffect.task?] at this
  case outcome =>
    obtain ⟨_, -, hs | ⟨result, hs⟩ | ⟨request, attempts, hs⟩⟩ :=
      s.outcome_cases task outcome cancels
    · simp [hs] at h
    · simp [hs] at h
    · rw [hs] at h
      exact absurd h (attemptNext_ne_addresses _ _ _ _ _ _)
  case tick =>
    have := (s.takeTick_only hosts).2 _ h
    simp [CacheEffect.task?] at this
  all_goals simp [step] at h

/-- Whoever is told the addresses of a host asked for them. -/
theorem CacheState.sought_of_finished_step {settings : Settings} {now : Instant}
    {before : List (CacheEvent γ)} {e : CacheEvent γ} {id : Nat}
    {result : Except ResolutionError (List String)}
    (h : .finished id (.addresses result)
      ∈ (((CacheState.fresh settings now).after before).step e).2) :
    ∃ host, (CacheState.fresh settings now).Sought (before ++ [e]) id host .addresses
      ∧ ((CacheState.fresh settings now).after before).lookedUp? e = some (id, host, result) := by
  obtain ⟨host, hl, hg⟩ := lookedUp_of_finished h
  refine ⟨host, ?_, hl⟩
  rcases hg with ⟨request, rfl, hs⟩ | ⟨flight, answer, hended, rfl⟩
  · have hid : id = ((CacheState.fresh settings now).after before).nextTask := by
      rcases lookedUp_cases hl with ⟨_, _, _, -, hid, -⟩ | ⟨_, _, _, he, -⟩
      · exact hid
      · simp [ended?] at he
    exact ⟨before, request, [], rfl, hid.symm, hs⟩
  · exact (sought_of_resolving _ before rfl (waits_of_ended hended)).append _

theorem CacheState.sought_of_finished {settings : Settings} {now : Instant}
    {es : List (CacheEvent γ)} {id : Nat} {result : Except ResolutionError (List String)}
    (h : .finished id (.addresses result) ∈ (CacheState.fresh settings now).effects es) :
    ∃ before e after host, es = before ++ e :: after
      ∧ (CacheState.fresh settings now).Sought es id host .addresses
      ∧ ((CacheState.fresh settings now).after before).lookedUp? e = some (id, host, result) := by
  obtain ⟨before, e, after, rfl, he⟩ := mem_effects h
  obtain ⟨host, hs, hl⟩ := sought_of_finished_step he
  refine ⟨before, e, after, host, rfl, ?_, hl⟩
  rw [List.append_cons]
  exact hs.append after

theorem Owner.get?_stored {owner : Owner} {entries : Entries}
    {result : Except ResolutionError (List String)} {host : String} {addresses : List String}
    (h : (owner.stored entries result).get? host = some addresses) :
    owner.flight.host = host ∧ result = .ok addresses ∨ entries.get? host = some addresses := by
  rcases result with error | stored
  · rcases owner with ⟨id, goal, flight⟩ | ⟨id, pass, flight⟩ | ⟨ticker, pass, flight⟩ <;>
      exact .inr h
  rcases owner with ⟨id, goal, flight⟩ | ⟨id, pass, flight⟩ | ⟨ticker, pass, flight⟩
  · rw [Owner.stored, Entries.get?_insert] at h
    split_ifs at h with hh
    · exact .inl ⟨hh.symm, congrArg Except.ok (Option.some.inj h)⟩
    · exact .inr h
  all_goals
    rw [Owner.stored, Entries.get?_refreshed] at h
    simp only [] at h
    split_ifs at h with hh
    · exact .inl ⟨hh.1.symm, congrArg Except.ok (Option.some.inj h)⟩
    · exact .inr h

/-- The entry of a host is an answer for it, whole. -/
theorem CacheState.gave_of_entry (settings : Settings) (now : Instant) (es : List (CacheEvent γ)) :
    ∀ {host addresses},
      ((CacheState.fresh settings now).after es).entries.get? host = some addresses →
        addresses ≠ [] ∧ (CacheState.fresh settings now).Gave es host addresses := by
  induction es using List.reverseRecOn with
  | nil =>
    intro host addresses h
    simp [after, fresh, Entries.empty, Entries.get?] at h
  | append_singleton es e ih =>
    intro host addresses h
    rw [after_append, after_singleton] at h
    by_cases he : e = .clear
    · rw [he] at h
      simp [step, Entries.empty, Entries.get?] at h
    rw [step_entries _ e he] at h
    split at h
    · -- the last step has written the entry, or the entry is an older one
      rename_i owner answer hended
      rcases Owner.get?_stored h with ⟨rfl, hr⟩ | h
      · exact gave_of_ended hended hr
      · exact (ih h).imp_right fun hg => hg.append [e]
    · exact (ih h).imp_right fun hg => hg.append [e]

/-- Whatever happens to a cache, and in whichever order: no two questions have a number in common,
every entry is one whole answer that was given in time to a question for its host and is not
empty, and so is every list that a lookup comes to or returns, for the host that it looks up. -/
theorem CacheState.entries_single_answers (settings : Settings) (now : Instant)
    (es : List (CacheEvent γ)) :
    let s := CacheState.fresh settings now
    ((asked (s.effects es)).map Flight.call).Nodup
    ∧ (∀ entry ∈ (s.after es).entries.list, entry.2 ≠ [] ∧ s.Gave es entry.1 entry.2)
    ∧ (∀ before e after id host addresses, es = before ++ e :: after →
      (s.after before).lookedUp? e = some (id, host, .ok addresses) →
        (∃ goal, s.Sought (before ++ [e]) id host goal) ∧ addresses ≠ []
          ∧ s.Gave (before ++ [e]) host addresses)
    ∧ ∀ id addresses, .finished id (.addresses (.ok addresses)) ∈ s.effects es →
      ∃ host, s.Sought es id host .addresses ∧ addresses ≠ [] ∧ s.Gave es host addresses := by
  have hlooked : ∀ before (e : CacheEvent γ) id host addresses,
      ((CacheState.fresh settings now).after before).lookedUp? e = some (id, host, .ok addresses) →
        addresses ≠ [] ∧ (CacheState.fresh settings now).Gave (before ++ [e]) host addresses := by
    intro before e id host addresses h
    refine gave_of_entry settings now (before ++ [e]) ?_
    rw [after_append, after_singleton]
    exact entry_of_lookedUp h
  refine ⟨?_, fun entry hm => ?_, ?_, ?_⟩
  · rw [(asked_calls (numbered_fresh settings now) es).2]
    exact List.nodup_range'
  · exact gave_of_entry settings now es
      (Entries.get?_of_mem (Reachable.hosts_nodup ⟨settings, now, es, rfl⟩) hm)
  · rintro before e after id host addresses - h
    exact ⟨sought_of_lookedUp h, hlooked before e id host addresses h⟩
  · intro id addresses h
    obtain ⟨before, e, after, host, rfl, hs, hl⟩ := sought_of_finished h
    obtain ⟨hne, hg⟩ := hlooked before e id host addresses hl
    refine ⟨host, hs, hne, ?_⟩
    rw [List.append_cons]
    exact hg.append after

end HostDialing

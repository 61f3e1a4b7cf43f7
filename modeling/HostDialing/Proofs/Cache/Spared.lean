import HostDialing.Proofs.Cache.Remains

/-!
# A run without a lookup

A task that looks a host up and comes to no list might as well not have been started: the run
without it, in which only its numbers are gone, leads to the same entries with the same effects in
everybody else's name (`CacheState.run_spared`). If it comes to a list it does to the cache what a
plain lookup of the host does, whatever it goes on with (`CacheState.run_as_lookup`).
-/

namespace HostDialing

variable {γ : Type}

/-- The cache without the task that a request has led to `t` with: its numbers are gone, and
whoever made it keeps the cache as long as the task is under way. -/
def CacheState.spared (s t : CacheState) : CacheState :=
  { s with
    nextTask := t.nextTask
    nextCall := t.nextCall
    isReleased := s.isReleased && (t.task? s.nextTask).isNone }

theorem CacheState.finds_append (id : Nat) (es es' : List (CacheEvent γ)) :
    ∀ s : CacheState, s.Finds id (es ++ es') ↔ s.Finds id es ∨ (s.after es).Finds id es' := by
  induction es with
  | nil => exact fun s => (false_or _).symm.to_iff
  | cons e es ih =>
    intro s
    rw [List.cons_append, Finds, Finds, ih, after, or_assoc]

theorem CacheState.finds_iff {s : CacheState} {id : Nat} {es : List (CacheEvent γ)} :
    s.Finds id es ↔ ∃ before e after host addresses, es = before ++ e :: after
      ∧ (s.after before).lookedUp? e = some (id, host, .ok addresses) := by
  constructor
  · intro h
    induction es generalizing s with
    | nil => exact h.elim
    | cons e es ih =>
      rcases h with ⟨host, addresses, h⟩ | h
      · exact ⟨[], e, es, host, addresses, rfl, h⟩
      · obtain ⟨before, e', after, host, addresses, rfl, hl⟩ := ih h
        exact ⟨e :: before, e', after, host, addresses, rfl, hl⟩
  · rintro ⟨before, e, after, host, addresses, rfl, h⟩
    exact (finds_append id before _ s).2 (.inr (.inl ⟨host, addresses, h⟩))

/-- What is over finds nothing. -/
theorem CacheState.not_finds_of_not_resolving {s : CacheState} (hn : s.Numbered) {id : Nat}
    (hlt : id < s.nextTask) (ht : ∀ goal flight, s.task? id ≠ some (.resolving goal flight))
    (es : List (CacheEvent γ)) : ¬ s.Finds id es := by
  rw [finds_iff]
  rintro ⟨before, e, after, host, addresses, rfl, h⟩
  rcases lookedUp_cases h with ⟨_, _, _, -, hid, -⟩ | ⟨goal, flight, _, hended, -, -⟩
  · have := hn.nextTask_after before
    omega
  · exact not_resolving_after hn hlt ht before goal flight
      ((hn.after before).task?_of_mem (waits_of_ended hended))

/-- When its lookup has come to something a task does not wait for it any more. -/
theorem CacheState.not_resolving_of_lookedUp {s : CacheState} (hn : s.Numbered)
    {e : CacheEvent γ} {id : Nat} {host : String} {result : Except ResolutionError (List String)}
    (h : s.lookedUp? e = some (id, host, result)) :
    id < (s.step e).1.nextTask
      ∧ ∀ goal flight, (s.step e).1.task? id ≠ some (.resolving goal flight) := by
  obtain ⟨goal, s', said, hwho, hsome, hstep, -⟩ := step_of_lookedUp hn h
  refine ⟨?_, ?_⟩
  · rcases hwho with ⟨request, rfl, rfl, hs⟩ | ⟨flight, ht, -⟩
    · rw [nextTask_of_sought hn hs]
      exact Nat.lt_succ_self _
    · exact Nat.lt_of_lt_of_le (hn.ids_lt _ (mem_ids_of_task? ht)) (hn.nextTask_after [e])
  · rw [hstep]
    exact reach_task? hsome host goal result

theorem CacheState.not_resolving_of_finds {s : CacheState} (hn : s.Numbered) {id : Nat}
    {es : List (CacheEvent γ)} (h : s.Finds id es) :
    ∀ goal flight, (s.after es).task? id ≠ some (.resolving goal flight) := by
  obtain ⟨before, e, rest, host, addresses, rfl, hl⟩ := finds_iff.1 h
  have hn' := hn.after before
  obtain ⟨hlt, ht⟩ := not_resolving_of_lookedUp hn' hl
  rw [after_append]
  exact not_resolving_after (hn'.step e) hlt ht rest

/-- A lookup that fails finds nothing. -/
theorem CacheState.not_finds_of_failed {s : CacheState} (hn : s.Numbered) {id : Nat}
    {before after : List (CacheEvent γ)} {e : CacheEvent γ} {host : String}
    {error : ResolutionError}
    (h : (s.after before).lookedUp? e = some (id, host, .error error)) :
    ¬ s.Finds id (before ++ e :: after) := by
  have hn' := hn.after before
  obtain ⟨hlt, hgone⟩ := not_resolving_of_lookedUp hn' h
  rw [finds_append]
  rintro (hf | ⟨_, _, hl⟩ | hf)
  · rcases lookedUp_cases h with ⟨_, _, _, -, -, -, -, hr⟩ | ⟨goal, flight, _, hended, -, -⟩
    · simp at hr
    · exact not_resolving_of_finds hn hf goal flight (hn'.task?_of_mem (waits_of_ended hended))
  · simp [h] at hl
  · exact not_finds_of_not_resolving (hn'.step e) hlt hgone after hf

/-- A task that waits for the answer of a lookup has waited for it ever since it was started. -/
theorem CacheState.resolving_of_after {s : CacheState} (hn : s.Numbered) {id : Nat}
    (hlt : id < s.nextTask) {goal : Goal} {flight : Flight} {es : List (CacheEvent γ)}
    (h : (s.after es).task? id = some (.resolving goal flight)) :
    s.task? id = some (.resolving goal flight) := by
  induction es generalizing s with
  | nil => exact h
  | cons e es ih =>
    have hlt' : id < (s.step e).1.nextTask := Nat.lt_of_lt_of_le hlt (hn.nextTask_after [e])
    rcases resolving_of_step (mem_tasks_of_task? (ih (hn.step e) hlt' h)) with hm | ⟨_, -, hid, -⟩
    · exact hn.task?_of_mem hm
    · omega

section start

variable {s : CacheState} (hn : s.Numbered)

include hn

theorem CacheState.lt_nextTask_of_start {request : Request}
    (hrequest : ∀ hosts, request ≠ .refresh hosts) :
    s.nextTask < (s.step (.start request : CacheEvent γ)).1.nextTask := by
  rcases s.start_cases (γ := γ) request with ⟨host, goal, hs, -⟩ | ⟨hosts, h⟩ | ⟨error, -, h⟩
  · rw [nextTask_of_sought hn hs]
    exact Nat.lt_succ_self _
  · exact absurd h (hrequest hosts)
  · rw [step, h]
    exact Nat.lt_succ_self _

theorem CacheState.LooksUp.start {request : Request}
    (hrequest : ∀ hosts, request ≠ .refresh hosts) :
    (s.step (.start request : CacheEvent γ)).1.LooksUp s.nextTask := by
  intro pass hp
  have hnone : ∀ t : Task, (s.nextTask, t) ∉ s.tasks := fun t hm =>
    Nat.lt_irrefl _ (hn.ids_lt _ (List.mem_map_of_mem hm))
  rcases s.start_cases (γ := γ) request with ⟨host, goal, -, h⟩ | ⟨hosts, h⟩ | ⟨error, -, h⟩
  · have hm := mem_tasks_of_task? hp
    have hadd : (s.nextTask, Task.refreshing pass) ∈ s.tasks ++ [(s.nextTask,
        .resolving goal (Flight.start s.nextCall host s.now s.settings.lookupTimeout))] := by
      simp only [CacheState.step, h, lookUp] at hm
      split at hm
      · exact (reach_tasks _ s.nextTask host goal _ _ hm).resolve_right (by simp)
      · exact hm
    rcases List.mem_append.1 hadd with hm | hm
    · exact hnone _ hm
    · simp at hm
  · exact absurd h (hrequest hosts)
  · rw [CacheState.step, h] at hp
    exact hnone _ (mem_tasks_of_task? hp)

/-- A task that has not found a list at its start is left out. -/
theorem CacheState.start_spared {request : Request} (hrequest : ∀ hosts, request ≠ .refresh hosts)
    (hfinds : ∀ host addresses, s.lookedUp? (.start request : CacheEvent γ)
      ≠ some (s.nextTask, host, .ok addresses)) :
    let t := (s.step (.start request : CacheEvent γ)).1
    t.held s.nextTask false = s.spared t := by
  intro t
  have hgone := hn.task?_nextTask
  rcases s.start_cases (γ := γ) request with ⟨host, goal, hs, h⟩ | ⟨hosts, h⟩ | ⟨error, -, h⟩
  · rcases hk : s.entries.known? host with _ | addresses
    · have ht : t = { s.addTask s.nextTask (.resolving goal
          (Flight.start s.nextCall host s.now s.settings.lookupTimeout)) with
            nextTask := s.nextTask + 1
            nextCall := s.nextCall + 1 } := by
        simp only [t, step, h, lookUp, hk]
        rfl
      have hwaits : (t.task? s.nextTask).isSome := by
        rw [ht]
        exact Option.isSome_of_mem (task?_addTask_self (s := s) _ hgone)
      have htasks : t.reducedTasks s.nextTask false = s.tasks := by
        rw [← reducedTasks_of_gone hgone false, ht]
        simp [reducedTasks, addTask, Task.reduced?]
      rw [held, reduced, htasks, spared, Option.isNone_eq_false_iff.2 hwaits, ht]
      simp only [Bool.and_false]
      rfl
    · exact absurd (lookUp_known hk hs).1 (hfinds host addresses)
  · exact absurd h (hrequest hosts)
  · have ht : t = { s with nextTask := s.nextTask + 1 } := by
      simp only [t, step, h]
    have htask : t.task? s.nextTask = none := by
      rw [ht]
      exact hgone
    rw [held, reduced_of_gone htask, spared, htask, ht]

/-- A task that looks a host up is to the cache what a lookup is. -/
theorem CacheState.start_as_lookup {request : Request} {host : String} {goal : Goal}
    (hs : s.sought? request = some (host, goal)) (isReleased : Bool) :
    let r : Stepped γ := s.step (.start request)
    let r' : Stepped γ := { s with isReleased := isReleased }.step (.start (.lookup host))
    r.1.reduced s.nextTask true isReleased = r'.1
      ∧ othersOf s.nextTask r.2 = othersOf s.nextTask r'.2 := by
  intro r r'
  set started : CacheState := { s with nextTask := s.nextTask + 1 }
  have hgone : started.task? s.nextTask = none := hn.task?_nextTask
  have hid : s.nextTask ∉ started.ids := fun hm => Nat.lt_irrefl _ (hn.ids_lt _ hm)
  have hr : r = started.lookUp s.nextTask host goal := start_of_sought hs
  rcases hk : s.entries.known? host with _ | addresses
  · -- both wait for the answer to the same question
    have hbefore := reducedTasks_of_gone hgone true
    simp only [hr, r', step, start, lookUp, show started.entries.known? host = none from hk, hk]
    refine ⟨?_, rfl⟩
    set flight := Flight.start s.nextCall host s.now s.settings.lookupTimeout
    have htasks : (started.addTask s.nextTask (.resolving goal flight)).reducedTasks s.nextTask true
        = s.tasks ++ [(s.nextTask, .resolving .addresses flight)] := by
      simpa [reducedTasks, addTask, Task.reduced?] using hbefore
    exact congrArg (fun tasks => { started with
      isReleased := isReleased, tasks := tasks, nextCall := s.nextCall + 1 }) htasks
  · have hnumbered : ({ s with isReleased := isReleased } : CacheState).Numbered :=
      ⟨hn.ids_nodup, hn.ids_lt, hn.calls_nodup, hn.calls_lt⟩
    rw [show r' = _ from step_lookup_known hnumbered hk, hr]
    simp only [lookUp, show started.entries.known? host = some addresses from hk, othersOf_reach,
      reach_reduced_self, removeTask_addTask hid]
    refine ⟨reduced_of_gone hgone true isReleased, ?_⟩
    exact (othersOf_eq_nil (by simp [CacheEffect.task?])).symm

end start

section run

variable {s : CacheState} (hn : s.Numbered)

include hn

/-- The run goes on as if the task had not been started, if its lookup comes to no list. -/
theorem CacheState.run_spared {request : Request} (hrequest : ∀ hosts, request ≠ .refresh hosts)
    {es : List (CacheEvent γ)} (hfinds : ¬ s.Finds s.nextTask (.start request :: es)) :
    let t := (s.step (.start request : CacheEvent γ)).1
    let rest := t.remaining s.nextTask false es
    (t.after es).entries = ((s.spared t).after rest).entries
      ∧ othersOf s.nextTask (t.effects es) = othersOf s.nextTask ((s.spared t).effects rest) := by
  intro t rest
  have hstart : t.held s.nextTask false = s.spared t :=
    start_spared hn hrequest fun host addresses hl => hfinds (.inl ⟨host, addresses, hl⟩)
  obtain ⟨hafter, heffects⟩ := after_remaining false es (hn.step _)
    (lt_nextTask_of_start hn hrequest) (LooksUp.start hn hrequest) (.inr fun hf => hfinds (.inr hf))
  rw [← hstart]
  exact ⟨(congrArg CacheState.entries hafter).symm, heffects.symm⟩

/-- The run goes on as if the task had been started for the addresses alone. -/
theorem CacheState.run_as_lookup {request : Request} {host : String} {goal : Goal}
    (hs : s.sought? request = some (host, goal)) (es : List (CacheEvent γ)) :
    let t := (s.step (.start request : CacheEvent γ)).1
    let u := { s with isReleased := s.isReleased && (t.task? s.nextTask).isNone }
    let run := .start (.lookup host) :: t.remaining s.nextTask true es
    (t.after es).entries = (u.after run).entries
      ∧ othersOf s.nextTask (s.effects (.start request :: es))
        = othersOf s.nextTask (u.effects run) := by
  intro t u run
  have hrequest : ∀ hosts, request ≠ .refresh hosts := by
    rintro hosts rfl
    simp [sought?] at hs
  have hreleased : t.isReleased = s.isReleased := s.isReleased_step (by simp)
  have hheld : t.held s.nextTask true = (u.step (.start (.lookup host) : CacheEvent γ)).1 := by
    rw [held, hreleased]
    exact (start_as_lookup hn hs _).1
  obtain ⟨hafter, heffects⟩ := after_remaining true es (hn.step _)
    (lt_nextTask_of_start hn hrequest) (LooksUp.start hn hrequest) (.inl rfl)
  rw [hheld] at hafter heffects
  refine ⟨(congrArg CacheState.entries hafter).symm, ?_⟩
  rw [effects, effects, othersOf_append, othersOf_append, heffects,
    (start_as_lookup hn hs u.isReleased).2]

/-- A lookup asks when it starts, if at all. -/
theorem CacheState.asked_at_start {request : Request}
    (hrequest : ∀ hosts, request ≠ .refresh hosts) (es : List (CacheEvent γ)) :
    s.askedBy s.nextTask (.start request :: es)
      = asked (s.step (.start request : CacheEvent γ)).2 := by
  have hs : s.subject? (.start request : CacheEvent γ) = some s.nextTask := rfl
  have hnothing := LooksUp.askedBy_eq_nil es (hn.step (.start request : CacheEvent γ))
    (lt_nextTask_of_start hn hrequest) (LooksUp.start hn hrequest)
  rw [askedBy, if_pos hs, hnothing, List.append_nil]

end run

end HostDialing

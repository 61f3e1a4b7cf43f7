import HostDialing.Proofs.Cache.Run

/-!
# The task that a step is about

`CacheState.subject?` is the one task that a step can be about: the one it starts, the one that
waits for the answer or the outcome, or the one that is aborted. Every other task is as it was
before, and whatever a step does in the name of a task it does in the name of its subject
(`CacheState.step_only`).
-/

namespace HostDialing

variable {γ : Type}

theorem lookup_filter_ne {α : Type} {id other : Nat} (h : other ≠ id) :
    ∀ tasks : List (Nat × α), (tasks.filter (·.1 != id)).lookup other = tasks.lookup other
  | [] => rfl
  | (n, t) :: rest => by
    by_cases hn : n = id
    · subst hn
      have ho : (other == n) = false := by simp [h]
      simp [List.lookup_cons, ho, lookup_filter_ne h rest]
    · simp [hn, List.lookup_cons, lookup_filter_ne h rest]

theorem lookup_filter_self {α : Type} (id : Nat) (tasks : List (Nat × α)) :
    (tasks.filter (·.1 != id)).lookup id = none := by
  rw [List.lookup_eq_none_iff]
  intro entry h
  have := (List.mem_filter.1 h).2
  simpa [bne_comm] using this

theorem lookup_set_ne {α : Type} {id other : Nat} (h : other ≠ id) (t : α) :
    ∀ tasks : List (Nat × α),
      (tasks.map fun entry => if entry.1 = id then (id, t) else entry).lookup other
        = tasks.lookup other
  | [] => rfl
  | (n, u) :: rest => by
    have ih := lookup_set_ne h t rest
    by_cases hn : n = id
    · have ho : (other == id) = false := by simp [h]
      simp [hn, List.lookup_cons, ho, ih]
    · simp [hn, List.lookup_cons, ih]

theorem lookup_set_self {α : Type} {id : Nat} (t : α) :
    ∀ {tasks : List (Nat × α)}, (tasks.lookup id).isSome →
      (tasks.map fun entry => if entry.1 = id then (id, t) else entry).lookup id = some t
  | [], h => by simp at h
  | (n, u) :: rest, h => by
    by_cases hn : n = id
    · simp [hn]
    · have ho : (id == n) = false := by simp [Ne.symm hn]
      rw [List.lookup_cons, ho] at h
      simp [hn, List.lookup_cons, ho, lookup_set_self t h]

theorem CacheState.task?_removeTask_of_ne (s : CacheState) {id other : Nat} (h : other ≠ id) :
    (s.removeTask id).task? other = s.task? other :=
  lookup_filter_ne h s.tasks

theorem CacheState.task?_removeTask_self (s : CacheState) (id : Nat) :
    (s.removeTask id).task? id = none :=
  lookup_filter_self id s.tasks

theorem CacheState.task?_setTask_of_ne (s : CacheState) {id other : Nat} (h : other ≠ id)
    (t : Task) : (s.setTask id t).task? other = s.task? other :=
  lookup_set_ne h t s.tasks

theorem CacheState.task?_setTask_self {s : CacheState} {id : Nat} (t : Task)
    (h : (s.task? id).isSome) : (s.setTask id t).task? id = some t :=
  lookup_set_self t h

theorem CacheState.task?_addTask_of_ne (s : CacheState) {id other : Nat} (h : other ≠ id)
    (t : Task) : (s.addTask id t).task? other = s.task? other := by
  have ho : (other == id) = false := by simp [h]
  simp only [task?, addTask, List.lookup_append, List.lookup_cons, ho, List.lookup_nil,
    Option.or_none]

theorem CacheState.task?_addTask_self {s : CacheState} {id : Nat} (t : Task)
    (h : s.task? id = none) : (s.addTask id t).task? id = some t := by
  have h : s.tasks.lookup id = none := h
  simp [task?, addTask, List.lookup_append, h]

/-- The task in whose name something is done. -/
def CacheEffect.task? : CacheEffect γ → Option Nat
  | order task _ => some task
  | connect task _ _ => some task
  | finished task _ => some task
  | _ => none

/-- The task that waits for an answer; the background task has no number. -/
def Owner.id? : Owner → Option Nat
  | lookup id _ _ => some id
  | refresh id _ _ => some id
  | background _ _ _ => none

/-- The task that a step is about. -/
def CacheState.subject? (s : CacheState) : CacheEvent γ → Option Nat
  | .start _ => some s.nextTask
  | .answer call _ _ => (s.owner? call).bind Owner.id?
  | .outcome task _ _ => some task
  | .abort task => some task
  | _ => none

/-- No task but one, if any, was touched, and nothing was done in the name of another. -/
structure Stepped.Only (who : Option Nat) (s : CacheState) (r : Stepped γ) : Prop where
  task? : ∀ other, who ≠ some other → r.1.task? other = s.task? other
  effects : ∀ effect ∈ r.2, ∀ task, effect.task? = some task → who = some task

variable {s t : CacheState} {who : Option Nat} {r : Stepped γ}

theorem Stepped.Only.of_tasks (ht : t.tasks = s.tasks) (h : Stepped.Only who t r) :
    Stepped.Only who s r := by
  refine ⟨fun other ho => ?_, h.effects⟩
  rw [h.task? other ho]
  simp only [CacheState.task?, ht]

theorem Stepped.Only.idle (who : Option Nat) (ht : t.tasks = s.tasks) :
    Stepped.Only who s ((t, []) : Stepped γ) :=
  ⟨fun other _ => by simp only [CacheState.task?, ht], by simp⟩

/-- More effects in nobody's name. -/
theorem Stepped.Only.prepend {effects : List (CacheEffect γ)}
    (he : ∀ effect ∈ effects, effect.task? = none) (h : Stepped.Only who s r) :
    Stepped.Only who s (r.1, effects ++ r.2) := by
  refine ⟨h.task?, fun effect hm task htask => ?_⟩
  rcases List.mem_append.1 hm with hm | hm
  · rw [he effect hm] at htask
    simp at htask
  · exact h.effects effect hm task htask

theorem Stepped.Only.remove (s : CacheState) (id : Nat) {effects : List (CacheEffect γ)}
    (he : ∀ effect ∈ effects, effect.task? = some id) :
    Stepped.Only (some id) s (s.removeTask id, effects) := by
  refine ⟨fun other ho => s.task?_removeTask_of_ne fun h => ho (by rw [h]), ?_⟩
  intro effect hm task htask
  rw [← htask, he effect hm]

theorem Stepped.Only.attemptNext (s : CacheState) (id : Nat) (request : DialRequest)
    (attempts : Attempts) :
    Stepped.Only (some id) s (s.attemptNext id request attempts : Stepped γ) := by
  unfold CacheState.attemptNext
  split
  · exact .remove s id (by simp [CacheEffect.task?])
  · refine ⟨fun other ho => s.task?_setTask_of_ne (fun h => ho (by rw [h])) _, ?_⟩
    simp [CacheEffect.task?]

theorem Stepped.Only.reach (s : CacheState) (id : Nat) (host : String) (goal : Goal)
    (result : Except ResolutionError (List String)) :
    Stepped.Only (some id) s (s.reach id host goal result : Stepped γ) := by
  unfold CacheState.reach
  split
  all_goals try exact .remove s id (by simp [CacheEffect.task?])
  rename_i request port addresses
  obtain ⟨ht, he⟩ := attemptNext (γ := γ) s id request
    (.begin (candidates addresses (request.order addresses.length) port))
  refine ⟨ht, fun effect h task htask => ?_⟩
  rcases List.mem_cons.1 h with rfl | h
  · exact htask
  · exact he effect h task htask

theorem Stepped.Only.lookUp (s : CacheState) (id : Nat) (host : String) (goal : Goal) :
    Stepped.Only (some id) s (s.lookUp id host goal : Stepped γ) := by
  have hadd : ∀ t other, some id ≠ some other → (s.addTask id t).task? other = s.task? other :=
    fun t other ho => s.task?_addTask_of_ne (fun h => ho (by rw [h])) t
  unfold CacheState.lookUp
  simp only []
  split
  · obtain ⟨ht, he⟩ := reach (γ := γ) _ id host goal _
    exact ⟨fun other ho => (ht other ho).trans (hadd _ other ho), he⟩
  · exact ⟨fun other ho => hadd _ other ho, by simp [CacheEffect.task?]⟩

theorem Stepped.Only.keepRefresh (s : CacheState) (id : Nat) (p : Pass) :
    Stepped.Only (some id) s (s.keepRefresh id p : Stepped γ) := by
  unfold CacheState.keepRefresh
  split
  · exact .remove s id (by simp [CacheEffect.task?])
  · exact ⟨fun other ho => s.task?_setTask_of_ne (fun h => ho (by rw [h])) _, by simp⟩

theorem Stepped.Only.endLookup (s : CacheState) (id : Nat) (goal : Goal) (flight : Flight)
    (answer : Option Answer) :
    Stepped.Only (some id) s (s.endLookup id goal flight answer : Stepped γ) := by
  unfold CacheState.endLookup
  split
  · rename_i addresses _
    have he : ∀ effect ∈ [CacheEffect.learned (γ := γ) flight.host addresses],
        effect.task? = none := by simp [CacheEffect.task?]
    refine .of_tasks (t := { s with entries := s.entries.insert flight.host addresses }) rfl ?_
    exact .prepend he (reach _ id flight.host goal (.ok addresses))
  · exact reach s id flight.host goal _

/-- What a pass does when a question ends is done in nobody's name, and touches no task. -/
theorem CacheState.endQuestion_only (s : CacheState) (p : Pass) (flight : Flight)
    (answer : Option Answer) :
    (s.endQuestion p flight answer : Pass × CacheState × List (CacheEffect γ)).2.1.tasks = s.tasks
    ∧ ∀ effect ∈ (s.endQuestion p flight answer : Pass × CacheState × List (CacheEffect γ)).2.2,
      effect.task? = none := by
  refine ⟨rfl, fun effect hm => ?_⟩
  simp only [endQuestion, fillPass, List.mem_append, List.mem_map] at hm
  rcases hm with hm | ⟨f, -, rfl⟩
  · split at hm
    · split_ifs at hm <;> simp at hm
      rw [hm]
      rfl
    · simp at hm
      rw [hm]
      rfl
  · rfl

theorem Stepped.Only.conclude (s : CacheState) (owner : Owner) (answer : Option Answer) :
    Stepped.Only owner.id? s (s.conclude answer owner : Stepped γ) := by
  rcases owner with ⟨id, goal, flight⟩ | ⟨id, pass, flight⟩ | ⟨ticker, pass, flight⟩
  · exact endLookup s id goal flight answer
  · obtain ⟨ht, he⟩ := s.endQuestion_only (γ := γ) pass flight answer
    exact .of_tasks ht (.prepend he (keepRefresh _ id _))
  · obtain ⟨ht, he⟩ := s.endQuestion_only (γ := γ) pass flight answer
    refine ⟨fun other _ => by simp only [CacheState.task?]; exact congrArg _ ht, ?_⟩
    intro effect hm task htask
    rw [he effect hm] at htask
    simp at htask

theorem Stepped.Only.start (s : CacheState) (request : Request) :
    Stepped.Only (some s.nextTask) s (s.start request : Stepped γ) := by
  rcases s.start_cases (γ := γ) request with ⟨host, goal, -, h⟩ | ⟨hosts, rfl⟩ | ⟨error, -, h⟩
  · rw [h]
    exact .of_tasks (t := { s with nextTask := s.nextTask + 1 }) rfl (lookUp _ s.nextTask host goal)
  · simp only [CacheState.start, CacheState.fillPass]
    obtain ⟨ht, he⟩ := keepRefresh (γ := γ) _ s.nextTask _
    refine ⟨fun other ho => (ht other ho).trans ?_, ?_⟩
    · exact CacheState.task?_addTask_of_ne _ (fun h => ho (by rw [h])) _
    · intro effect hm task htask
      rcases List.mem_append.1 hm with hm | hm
      · obtain ⟨f, -, rfl⟩ := List.mem_map.1 hm
        simp [CacheEffect.task?] at htask
      · exact he effect hm task htask
  · rw [h]
    exact ⟨fun other _ => rfl, by simp [CacheEffect.task?]⟩

theorem CacheState.takeTick_only (s : CacheState) (hosts : List String) :
    (s.takeTick hosts : Stepped γ).1.tasks = s.tasks
    ∧ ∀ effect ∈ (s.takeTick hosts : Stepped γ).2, effect.task? = none := by
  unfold takeTick
  split
  · split_ifs
    · simp
    · simp
    · simp only [fillPass, keepBackground]
      refine ⟨trivial, fun effect hm => ?_⟩
      obtain ⟨f, -, rfl⟩ := List.mem_map.1 hm
      rfl
  · simp

/-- A step is about its subject and about no other task. -/
theorem CacheState.step_only (s : CacheState) (e : CacheEvent γ) :
    Stepped.Only (s.subject? e) s (s.step e) := by
  rcases e with request | ⟨call, answer, cancels⟩ | ⟨task, outcome, cancels⟩ | token | task
    | _ | _ | _ | hosts | nanos
  · exact .start s request
  · rcases s.answer_cases (γ := γ) call answer cancels with ⟨owner, a, cancelled, -, ho, -, h⟩
      | ⟨_, -, -, h⟩ | ⟨id, goal, flight, error, -, ho, -, h⟩
    · rw [h]
      simp only [subject?, ho, Option.bind_some]
      exact .of_tasks (t := { s with cancelled := cancelled }) rfl (.conclude _ owner a)
    · rw [h]
      exact .idle _ rfl
    · rw [h]
      simp only [subject?, ho, Option.bind_some, Owner.id?]
      exact .remove s id (by simp [CacheEffect.task?])
  · obtain ⟨cancelled, -, h | ⟨result, h⟩ | ⟨request, attempts, h⟩⟩ :=
      s.outcome_cases task outcome cancels
    · rw [h]
      exact .idle _ rfl
    · rw [h]
      exact .of_tasks (t := { s with cancelled := cancelled }) rfl
        (.remove _ task (by simp [CacheEffect.task?]))
    · rw [h]
      exact .of_tasks (t := { s with cancelled := cancelled }) rfl
        (.attemptNext _ task request attempts)
  · exact .idle _ rfl
  · exact .remove s task (by simp)
  · exact .idle _ rfl
  · exact .idle _ rfl
  · exact .idle _ rfl
  · obtain ⟨ht, he⟩ := s.takeTick_only (γ := γ) hosts
    refine ⟨fun other _ => by simp only [task?]; exact congrArg _ ht, ?_⟩
    intro effect hm task htask
    rw [he effect hm] at htask
    simp at htask
  · exact .idle _ rfl

end HostDialing

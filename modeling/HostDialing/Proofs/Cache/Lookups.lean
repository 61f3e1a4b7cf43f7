import HostDialing.Proofs.Dial.Cancellation

/-!
# Steps of a lookup

A task that looks a host up, for the addresses, for sockets or for a dial, does few things of its
own (`CacheState.OwnStep`). It asks the resolver when it starts, if at all, and writes to the
entries only where its lookup comes to a list.
-/

namespace HostDialing

variable {γ : Type}

theorem CacheState.lookedUp_of_ended {s : CacheState} {e : CacheEvent γ} {id : Nat} {goal : Goal}
    {flight : Flight} {a : Option Answer} (h : s.ended? e = some (.lookup id goal flight, a)) :
    s.lookedUp? e
      = some (id, flight.host, resolved flight.host s.settings.lookupTimeout a) := by
  obtain ⟨call, answer, cancels, rfl⟩ := answer_of_ended h
  simp only [lookedUp?, h]

/-- A task that looks a host up, for a dial or for something else, and does not refresh. -/
def CacheState.LooksUp (s : CacheState) (id : Nat) : Prop :=
  ∀ pass, s.task? id ≠ some (.refreshing pass)

/-- What a step of its own can be for a task that looks a host up: it waits on, it ends, its lookup
comes to a list, or it is a dial that goes on to its next attempt. -/
inductive CacheState.OwnStep (s : CacheState) (id : Nat) (e : CacheEvent γ) : Prop
  | waits (cancelled : List Token) (step : s.step e = ({ s with cancelled := cancelled }, []))
  | ends (cancelled : List Token) (effects : List (CacheEffect γ))
    (step : s.step e = ({ s with cancelled := cancelled }.removeTask id, effects))
    (own : ∀ effect ∈ effects, ∃ result, effect = .finished id result)
  | finds (u : CacheState) {host : String} {addresses : List String} (goal : Goal)
    (lookup : s.lookedUp? e = some (id, host, .ok addresses)) (tasks : u.tasks = s.tasks)
    (step : (s.step e).1 = (u.reach id host goal (.ok addresses) : Stepped γ).1)
  | attempts (cancelled : List Token) {request : DialRequest} {left : Attempts}
    (task : ∃ request tried, s.task? id = some (.attempting request tried))
    (step : s.step e = { s with cancelled := cancelled }.attemptNext id request left)

theorem CacheState.reach_error (s : CacheState) (id : Nat) (host : String) (goal : Goal)
    (error : ResolutionError) : ∃ result,
      (s.reach id host goal (.error error) : Stepped γ)
        = (s.removeTask id, [.finished id result]) := by
  cases goal <;> exact ⟨_, rfl⟩

theorem CacheState.LooksUp.ownStep {s : CacheState} (hn : s.Numbered) {id : Nat}
    (hlt : id < s.nextTask) (h : s.LooksUp id) {e : CacheEvent γ} (hs : s.subject? e = some id) :
    s.OwnStep id e := by
  have hone : ∀ result, ∀ effect ∈ [CacheEffect.finished (γ := γ) id result],
      ∃ result, effect = .finished id result := fun result effect hm =>
    ⟨result, List.mem_singleton.1 hm⟩
  rcases e with request | ⟨call, answer, cancels⟩ | ⟨task, outcome, cancels⟩ | token | task
    | _ | _ | _ | hosts | nanos
  case start =>
    obtain rfl : s.nextTask = id := Option.some.inj hs
    exact absurd hlt (Nat.lt_irrefl _)
  case answer =>
    obtain ⟨owner, ho, hid⟩ := Option.bind_eq_some_iff.1 hs
    rcases (owner?_spec ho).1.task? hn hid with ⟨goal, flight, rfl, -⟩ | ⟨pass, -, -, ht⟩
    swap
    · exact absurd ht (h pass)
    rcases s.answer_cases (γ := γ) call answer cancels
      with ⟨owner', a, cancelled, hended, ho', -, he⟩ | ⟨cancelled, -, -, he⟩
        | ⟨id', goal', flight', error, -, ho', -, he⟩
    · obtain rfl := Option.some.inj (ho.symm.trans ho')
      have hl := lookedUp_of_ended hended
      rcases hr : resolved flight.host s.settings.lookupTimeout a with error | addresses
      · obtain ⟨result, hreach⟩ :=
          reach_error (γ := γ) { s with cancelled := cancelled } id flight.host goal error
        refine .ends cancelled [.finished id result] ?_ (hone result)
        simp only [he, conclude, endLookup, hr, hreach]
      · refine .finds { s with
          cancelled := cancelled
          entries := s.entries.insert flight.host addresses } goal (hr ▸ hl) rfl ?_
        simp only [he, conclude, endLookup, hr]
    · exact .waits cancelled he
    · obtain ⟨rfl, -⟩ := Owner.lookup.inj (Option.some.inj (ho.symm.trans ho'))
      exact .ends s.cancelled _ he (hone _)
  case outcome =>
    obtain rfl : task = id := Option.some.inj hs
    by_cases hw : ∃ request attempts, s.task? task = some (.attempting request attempts)
    · obtain ⟨cancelled, -, he | ⟨result, he⟩ | ⟨_, _, he⟩⟩ := s.outcome_cases task outcome cancels
      · exact .waits cancelled he
      · exact .ends cancelled _ he (hone _)
      · exact .attempts cancelled hw he
    · have hidle : s.step (.outcome task outcome cancels) = (s, []) := by
        simp only [CacheState.step, takeOutcome]
        split
        · exact absurd ⟨_, _, ‹_›⟩ hw
        · rfl
      exact .waits s.cancelled hidle
  case abort =>
    obtain rfl : task = id := Option.some.inj hs
    exact .ends s.cancelled [] rfl (by simp)
  all_goals simp [subject?] at hs

/-- In a step of its own a task that looks a host up asks nothing more. -/
theorem CacheState.OwnStep.asked_eq_nil {s : CacheState} {id : Nat} {e : CacheEvent γ}
    (h : s.OwnStep id e) : asked (s.step e).2 = [] := by
  cases h with
  | waits _ step =>
    rw [step]
    rfl
  | ends _ effects step own =>
    have hown : ∀ effect ∈ effects, effect.task? = some id := by
      intro effect hm
      obtain ⟨result, rfl⟩ := own effect hm
      rfl
    rw [step]
    exact asked_of_task hown
  | finds _ _ lookup => exact asked_of_lookedUp lookup
  | attempts _ _ step =>
    rw [step]
    exact asked_of_task (Stepped.Drops.attemptNext _ _ _ _).effects

theorem CacheState.OwnStep.tasks {s : CacheState} {id : Nat} {e : CacheEvent γ}
    (h : s.OwnStep id e) : ∀ entry ∈ (s.step e).1.tasks,
      entry ∈ s.tasks ∨ ∃ request attempts, entry.2 = .attempting request attempts := by
  cases h with
  | waits _ step =>
    rw [step]
    exact fun _ hm => .inl hm
  | ends _ _ step =>
    rw [step]
    exact fun _ hm => .inl (List.mem_of_mem_filter hm)
  | finds _ _ _ tasks step =>
    rw [step, ← tasks]
    exact reach_tasks _ _ _ _ _
  | attempts _ _ step =>
    rw [step]
    exact attemptNext_tasks _ _ _ _

/-- Only with a list does a task that looks a host up write an entry. -/
theorem CacheState.OwnStep.entries {s : CacheState} {id : Nat} {e : CacheEvent γ}
    (h : s.OwnStep id e)
    (hfinds : ∀ host addresses, s.lookedUp? e ≠ some (id, host, .ok addresses)) :
    (s.step e).1.entries = s.entries := by
  cases h with
  | waits _ step => rw [step]
  | ends _ _ step =>
    rw [step]
    rfl
  | finds _ _ lookup => exact absurd lookup (hfinds _ _)
  | attempts _ _ step => rw [step, (Stepped.Drops.attemptNext _ id _ _).state]

theorem CacheState.LooksUp.step {s : CacheState} (hn : s.Numbered) {id : Nat}
    (hlt : id < s.nextTask) (h : s.LooksUp id) (e : CacheEvent γ) : (s.step e).1.LooksUp id := by
  intro pass hp
  by_cases hs : s.subject? e = some id
  · rcases (h.ownStep hn hlt hs).tasks _ (mem_tasks_of_task? hp) with hm | ⟨_, _, ht⟩
    · exact h pass (hn.task?_of_mem hm)
    · simp at ht
  · exact h pass ((s.step_only e).task? id hs ▸ hp)

theorem CacheState.LooksUp.after {id : Nat} (es : List (CacheEvent γ)) :
    ∀ {s : CacheState}, s.Numbered → id < s.nextTask → s.LooksUp id → (s.after es).LooksUp id := by
  induction es with
  | nil => exact fun _ _ h => h
  | cons e es ih =>
    intro s hn hlt h
    exact ih (hn.step e) (Nat.lt_of_lt_of_le hlt (hn.nextTask_after [e])) (h.step hn hlt e)

theorem CacheState.LooksUp.askedBy_eq_nil {id : Nat} (es : List (CacheEvent γ)) :
    ∀ {s : CacheState}, s.Numbered → id < s.nextTask → s.LooksUp id → s.askedBy id es = [] := by
  induction es with
  | nil => exact fun _ _ _ => rfl
  | cons e es ih =>
    intro s hn hlt h
    rw [askedBy, ih (hn.step e) (Nat.lt_of_lt_of_le hlt (hn.nextTask_after [e])) (h.step hn hlt e),
      List.append_nil]
    split_ifs with hs
    · exact (h.ownStep hn hlt hs).asked_eq_nil
    · rfl

end HostDialing

import HostDialing.Proofs.Cache.KnownHosts
import HostDialing.Proofs.Cache.RefreshPass

/-!
# The passes under way

A pass is made for an explicit refresh or by the background task. It begins with the known hosts,
and from then on the hosts whose questions have not ended only grow fewer
(`CacheState.mem_passes_step`). Between two steps the resolver is asked for nothing but the host
of a lookup that starts and hosts of passes, so where no pass is under way the tasks that wait ask
for nothing.
-/

namespace HostDialing

variable {γ : Type}

def Task.pass? : Task → Option Pass
  | refreshing pass => some pass
  | _ => none

def Background.pass? : Background → Option Pass
  | passing _ pass => some pass
  | _ => none

def CacheState.passes (s : CacheState) : List Pass :=
  s.tasks.filterMap (·.2.pass?) ++ s.background.pass?.toList

/-- The hosts whose questions have not ended. -/
def Pass.pending (p : Pass) : List String := p.inFlight.map Flight.host ++ p.unstarted

/-- The event begins a pass, if it does anything. -/
def CacheEvent.BeginsPass (e : CacheEvent γ) : Prop :=
  ∃ order, e = .start (.refresh order) ∨ e = .tick order

theorem CacheState.mem_passes {s : CacheState} {p : Pass} :
    p ∈ s.passes ↔ (∃ id, (id, Task.refreshing p) ∈ s.tasks)
      ∨ ∃ ticker, s.background = .passing ticker p := by
  have htask : ∀ t : Task, t.pass? = some p ↔ t = .refreshing p := by
    rintro (_ | _ | pass) <;> simp [Task.pass?]
  have hbackground : s.background.pass? = some p ↔ ∃ ticker, s.background = .passing ticker p := by
    rcases s.background with ticker | ⟨ticker, pass⟩ | _ <;> simp [Background.pass?]
  simp only [passes, List.mem_append, List.mem_filterMap, htask, Option.mem_toList, hbackground,
    Prod.exists, exists_eq_right]

theorem CacheState.passes_fresh (settings : Settings) (now : Instant) :
    (CacheState.fresh settings now).passes = [] := by
  unfold passes fresh
  generalize Ticker.start? now settings.refreshInterval = ticker
  cases ticker <;> rfl

theorem Pass.pending_fill (p : Pass) (now : Instant) (limit : Duration) (call : Nat) :
    (p.fill now limit call).pending = p.pending :=
  p.fill_hosts now limit call

theorem Pass.pending_finish_subset (p : Pass) (flight : Flight) (isReplaced : Bool) :
    (p.finish flight isReplaced).pending ⊆ p.pending :=
  List.append_subset.2 ⟨fun _ h => List.mem_append_left _
    ((List.filter_sublist.map Flight.host).subset h), List.subset_append_right _ _⟩

/-- What a pass has left to do when one of its questions ends. -/
theorem CacheState.pending_endQuestion (s : CacheState) (p : Pass) (flight : Flight)
    (answer : Option Answer) :
    (s.endQuestion p flight answer : Pass × CacheState × List (CacheEffect γ)).1.pending
      ⊆ p.pending := by
  show (Pass.fill _ s.now s.settings.lookupTimeout s.nextCall).pending ⊆ _
  rw [Pass.pending_fill]
  exact p.pending_finish_subset flight _

/-- The same background task, and no task with a pass that is new. -/
theorem CacheState.mem_passes_of_tasks {s t : CacheState} (hb : t.background = s.background)
    (ht : ∀ entry ∈ t.tasks, entry ∈ s.tasks ∨ entry.2.pass? = none) {p : Pass}
    (h : p ∈ t.passes) : p ∈ s.passes := by
  rw [mem_passes, hb] at h
  refine mem_passes.2 (h.imp_left ?_)
  rintro ⟨id, hm⟩
  exact ⟨id, (ht _ hm).resolve_right (by simp [Task.pass?])⟩

theorem CacheState.no_pass_of_tasks {s t : CacheState} (h : s.passes = [])
    (hb : t.background = s.background)
    (ht : ∀ entry ∈ t.tasks, entry ∈ s.tasks ∨ entry.2.pass? = none) : t.passes = [] :=
  List.eq_nil_iff_forall_not_mem.2 fun p hp => by
    simpa [h] using mem_passes_of_tasks hb ht hp

theorem CacheState.mem_passes_reach {s : CacheState} {id : Nat} {host : String} {goal : Goal}
    {result : Except ResolutionError (List String)} {p : Pass}
    (h : p ∈ (s.reach id host goal result : Stepped γ).1.passes) : p ∈ s.passes := by
  refine mem_passes_of_tasks ?_ (fun entry he => ?_) h
  · rw [(Stepped.Drops.reach s id host goal result).state]
  · refine (reach_tasks s id host goal result entry he).imp_right ?_
    rintro ⟨request, attempts, ha⟩
    rw [ha]
    rfl

theorem CacheState.mem_passes_lookUp {s : CacheState} {id : Nat} {host : String} {goal : Goal}
    {p : Pass} (h : p ∈ (s.lookUp id host goal : Stepped γ).1.passes) : p ∈ s.passes := by
  set waiting := s.addTask id
    (.resolving goal (Flight.start s.nextCall host s.now s.settings.lookupTimeout))
  have hwaiting : p ∈ waiting.passes := by
    unfold lookUp at h
    simp only [] at h
    split at h
    · exact mem_passes_reach h
    · exact h
  refine mem_passes_of_tasks (s := s) (t := waiting) rfl (fun entry he => ?_) hwaiting
  rcases List.mem_append.1 he with he | he
  · exact .inl he
  · rw [List.mem_singleton.1 he]
    exact .inr rfl

theorem CacheState.mem_passes_removeTask {s : CacheState} {id : Nat} {p : Pass}
    (h : p ∈ (s.removeTask id).passes) : p ∈ s.passes :=
  mem_passes_of_tasks (s := s) (t := s.removeTask id) rfl
    (fun _ he => .inl (List.mem_of_mem_filter he)) h

theorem CacheState.mem_passes_keepRefresh {s : CacheState} {id : Nat} {q p : Pass}
    (h : p ∈ (s.keepRefresh id q : Stepped γ).1.passes) : p ∈ s.passes ∨ p = q := by
  have hb : (s.keepRefresh id q : Stepped γ).1.background = s.background := by
    rw [(s.keepRefresh_state id q).1]
  rw [mem_passes, hb] at h
  rcases h with ⟨id', hm⟩ | h
  · rcases keepRefresh_tasks s id q _ hm with hm | hm
    · exact .inl (mem_passes.2 (.inl ⟨id', hm⟩))
    · exact .inr (Task.refreshing.inj hm)
  · exact .inl (mem_passes.2 (.inr h))

theorem CacheState.mem_passes_keepBackground {s : CacheState} {ticker : Ticker} {q p : Pass}
    (h : p ∈ (s.keepBackground ticker q).passes) : p ∈ s.passes ∨ p = q := by
  rcases mem_passes.1 h with h | ⟨ticker', h⟩
  · exact .inl (mem_passes.2 (.inl h))
  · unfold keepBackground at h
    simp only [] at h
    split_ifs at h
    exact .inr (Background.passing.inj h).2.symm

/-- What is under way when a question has ended. -/
theorem CacheState.mem_passes_conclude {s : CacheState} {owner : Owner} (hw : owner.Waits s)
    {answer : Option Answer} {p : Pass}
    (h : p ∈ (s.conclude answer owner : Stepped γ).1.passes) :
    ∃ q ∈ s.passes, p.pending ⊆ q.pending := by
  rcases owner with ⟨id, goal, flight⟩ | ⟨id, pass, flight⟩ | ⟨ticker, pass, flight⟩
  · refine ⟨p, ?_, List.Subset.refl _⟩
    simp only [conclude, endLookup] at h
    split at h
    · rename_i addresses _
      exact mem_passes_reach (s := { s with entries := s.entries.insert flight.host addresses }) h
    · exact mem_passes_reach h
  · rcases mem_passes_keepRefresh h with h | rfl
    · exact ⟨p, h, List.Subset.refl _⟩
    · exact ⟨pass, mem_passes.2 (.inl ⟨id, hw.1⟩),
        s.pending_endQuestion (γ := γ) pass flight answer⟩
  · rcases mem_passes_keepBackground h with h | rfl
    · exact ⟨p, h, List.Subset.refl _⟩
    · exact ⟨pass, mem_passes.2 (.inr ⟨ticker, hw.1⟩),
        s.pending_endQuestion (γ := γ) pass flight answer⟩

/-- The hosts that a pass begins with. -/
theorem CacheState.pending_begun (s : CacheState) (order : List String) :
    ((Pass.over (s.passHosts order)).fill s.now s.settings.lookupTimeout s.nextCall).pending
      ⊆ s.entries.hosts := by
  rw [Pass.pending_fill]
  exact (s.passHosts_perm order).subset

/-- A pass that is under way after a step was so before, with at least as much left to do, or has
begun with the known hosts. -/
theorem CacheState.mem_passes_step {s : CacheState} {e : CacheEvent γ} {p : Pass}
    (h : p ∈ (s.step e).1.passes) :
    (∃ q ∈ s.passes, p.pending ⊆ q.pending)
      ∨ e.BeginsPass ∧ p.pending ⊆ s.entries.hosts := by
  have hold : p ∈ s.passes → ∃ q ∈ s.passes, p.pending ⊆ q.pending :=
    fun hm => ⟨p, hm, List.Subset.refl _⟩
  rcases e with request | ⟨call, given, cancels⟩ | ⟨task, outcome, cancels⟩ | token | task
    | _ | _ | _ | order | nanos
  case start =>
    rcases s.start_cases (γ := γ) request with ⟨host, goal, -, he⟩ | ⟨order, rfl⟩ | ⟨error, -, he⟩
    · rw [step, he] at h
      exact .inl (hold (mem_passes_lookUp (s := { s with nextTask := s.nextTask + 1 }) h))
    · rcases mem_passes_keepRefresh h with h | rfl
      · rcases mem_passes.1 h with ⟨id, hm⟩ | h
        · rcases List.mem_append.1 hm with hm | hm
          · exact .inl (hold (mem_passes.2 (.inl ⟨id, hm⟩)))
          · obtain rfl : p = Pass.over (s.passHosts order) :=
              Task.refreshing.inj (Prod.mk.inj (List.mem_singleton.1 hm)).2
            exact .inr ⟨⟨order, .inl rfl⟩, (s.passHosts_perm order).subset⟩
        · exact .inl (hold (mem_passes.2 (.inr h)))
      · exact .inr ⟨⟨order, .inl rfl⟩, s.pending_begun order⟩
    · rw [step, he] at h
      exact .inl (hold h)
  case answer =>
    rcases s.answer_cases (γ := γ) call given cancels with ⟨owner, a, cancelled, -, ho, -, hs⟩
      | ⟨cancelled, -, -, hs⟩ | ⟨id, goal, flight, error, -, -, -, hs⟩ <;> rw [hs] at h
    · exact .inl (mem_passes_conclude (s := { s with cancelled := cancelled }) (owner?_spec ho).1 h)
    · exact .inl (hold h)
    · exact .inl (hold (mem_passes_removeTask h))
  case outcome =>
    obtain ⟨cancelled, -, hs | ⟨result, hs⟩ | ⟨request, attempts, hs⟩⟩ :=
      s.outcome_cases task outcome cancels <;> rw [hs] at h
    · exact .inl (hold h)
    · exact .inl (hold (mem_passes_removeTask h))
    · refine .inl (hold (mem_passes_of_tasks ?_ (fun entry he => ?_) h))
      · rw [(Stepped.Drops.attemptNext _ task request attempts).state]
      · refine (attemptNext_tasks _ task request attempts entry he).imp_right ?_
        rintro ⟨request, attempts, ha⟩
        rw [ha]
        rfl
  case abort => exact .inl (hold (mem_passes_removeTask h))
  case stop =>
    rcases mem_passes.1 h with h | ⟨ticker, h⟩
    · exact .inl (hold (mem_passes.2 (.inl h)))
    · simp [step] at h
  case tick =>
    simp only [step, takeTick] at h
    split at h
    · split_ifs at h
      · exact .inl (hold h)
      · rcases mem_passes.1 h with h | ⟨ticker, h⟩
        · exact .inl (hold (mem_passes.2 (.inl h)))
        · simp at h
      · rcases mem_passes_keepBackground h with h | rfl
        · exact .inl (hold h)
        · exact .inr ⟨⟨order, .inr rfl⟩, s.pending_begun order⟩
    · exact .inl (hold h)
  all_goals exact .inl (hold h)

/-- Without a pass under way no step but a start or a tick asks the resolver for anything. -/
theorem CacheState.asked_step_of_no_pass {s : CacheState} (h : s.passes = []) {e : CacheEvent γ}
    (hstart : ∀ request, e ≠ .start request) (htick : ∀ order, e ≠ .tick order) :
    asked (s.step e).2 = [] := by
  rcases e with request | ⟨call, given, cancels⟩ | ⟨task, outcome, cancels⟩ | token | task
    | _ | _ | _ | order | nanos
  case start => exact absurd rfl (hstart request)
  case tick => exact absurd rfl (htick order)
  case answer =>
    rcases s.answer_cases (γ := γ) call given cancels with ⟨owner, a, cancelled, -, ho, -, hs⟩
      | ⟨cancelled, -, -, hs⟩ | ⟨id, goal, flight, error, -, -, -, hs⟩ <;> rw [hs]
    · obtain ⟨hw, -⟩ := owner?_spec ho
      rcases owner with ⟨id, goal, flight⟩ | ⟨id, pass, flight⟩ | ⟨ticker, pass, flight⟩
      · have hreach : ∀ t : CacheState, ∀ result,
            asked (t.reach id flight.host goal result : Stepped γ).2 = [] :=
          fun t result => asked_of_task (Stepped.Drops.reach t id flight.host goal result).effects
        simp only [conclude, endLookup]
        split
        · exact hreach { s with cancelled := cancelled, entries := _ } _
        · exact hreach { s with cancelled := cancelled } _
      · exact absurd (mem_passes.2 (.inl ⟨id, hw.1⟩)) (by simp [h])
      · exact absurd (mem_passes.2 (.inr ⟨ticker, hw.1⟩)) (by simp [h])
    · rfl
    · rfl
  case outcome =>
    obtain ⟨cancelled, -, hs | ⟨result, hs⟩ | ⟨request, attempts, hs⟩⟩ :=
      s.outcome_cases task outcome cancels <;> rw [hs]
    · rfl
    · rfl
    · exact asked_of_task (Stepped.Drops.attemptNext _ task request attempts).effects
  all_goals rfl

theorem CacheState.passes_step_of_no_pass {s : CacheState} (h : s.passes = []) {e : CacheEvent γ}
    (he : ¬ e.BeginsPass) : (s.step e).1.passes = [] := by
  refine List.eq_nil_iff_forall_not_mem.2 fun p hp => ?_
  rcases mem_passes_step hp with ⟨q, hq, -⟩ | ⟨hb, -⟩
  · simp [h] at hq
  · exact he hb

end HostDialing

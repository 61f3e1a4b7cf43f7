import HostDialing.Proofs.Cache.Passes

/-!
# Operations in turn

A request, a pass of the background task, a clear and a stop are operations; all other events belong
to operations under way. Operations are in turn where each begins on a quiet cache. A quiet cache
has no pass, so the one question that a lookup may ask is all that is asked until the next
operation begins (`CacheState.asked_of_sought`).
-/

namespace HostDialing

variable {γ : Type}

/-- The event begins an operation. -/
def CacheEvent.isOperation : CacheEvent γ → Bool
  | start _ => true
  | tick _ => true
  | clear => true
  | stop => true
  | _ => false

/-- Nothing is under way. -/
structure CacheState.IsQuiet (s : CacheState) : Prop where
  tasks : s.tasks = []
  passes : s.passes = []

/-- If the step begins an operation, whatever was begun before it has ended. -/
def CacheState.InTurn (s : CacheState) (e : CacheEvent γ) : Prop :=
  e.isOperation → s.IsQuiet

instance (s : CacheState) : Decidable s.IsQuiet :=
  decidable_of_iff (s.tasks.isEmpty ∧ s.passes.isEmpty)
    ⟨fun h => ⟨List.isEmpty_iff.1 h.1, List.isEmpty_iff.1 h.2⟩,
      fun h => ⟨List.isEmpty_iff.2 h.tasks, List.isEmpty_iff.2 h.passes⟩⟩

instance (s : CacheState) (e : CacheEvent γ) : Decidable (s.InTurn e) :=
  inferInstanceAs (Decidable (e.isOperation → s.IsQuiet))

theorem CacheState.isQuiet_fresh (settings : Settings) (now : Instant) :
    (CacheState.fresh settings now).IsQuiet :=
  ⟨rfl, passes_fresh settings now⟩

theorem CacheEvent.BeginsPass.isOperation {e : CacheEvent γ} (h : e.BeginsPass) :
    e.isOperation := by
  obtain ⟨order, rfl | rfl⟩ := h <;> rfl

/-- What is under way without a pass begins none and asks for nothing. -/
theorem CacheState.asked_of_no_pass {s : CacheState} (h : s.passes = [])
    {es : List (CacheEvent γ)} (hes : ∀ e ∈ es, ¬ e.isOperation) :
    asked (s.effects es) = [] ∧ (s.after es).passes = [] := by
  induction es generalizing s with
  | nil => exact ⟨rfl, h⟩
  | cons e es ih =>
    obtain ⟨he, hes⟩ := List.forall_mem_cons.1 hes
    have hstep := asked_step_of_no_pass h (e := e) (by rintro request rfl; exact he rfl)
      (by rintro order rfl; exact he rfl)
    obtain ⟨hasked, hpasses⟩ := ih (passes_step_of_no_pass h fun hb => he hb.isOperation) hes
    exact ⟨by rw [effects, asked_append, hstep, hasked]; rfl, hpasses⟩

/-- A lookup asks for its host where that is not known, and begins no pass. -/
theorem CacheState.start_of_no_pass {s : CacheState} (h : s.passes = []) {request : Request}
    {host : String} {goal : Goal} (hs : s.sought? request = some (host, goal)) :
    (asked (s.step (.start request : CacheEvent γ)).2).map Flight.host
        = (if (s.entries.known? host).isSome then [] else [host])
      ∧ (s.step (.start request : CacheEvent γ)).1.passes = [] := by
  constructor
  · rcases hk : s.entries.known? host with _ | addresses
    · simp only [step, start_of_sought hs, lookUp, hk]
      rfl
    · rw [(lookUp_known hk hs).2]
      rfl
  · refine passes_step_of_no_pass h ?_
    rintro ⟨order, he | he⟩
    · obtain rfl := CacheEvent.start.inj he
      simp [sought?] at hs
    · simp at he

/-- From its start on a quiet cache to the next operation, a lookup asks for its host if that is
not known, and nobody asks for anything else. -/
theorem CacheState.asked_of_sought {s : CacheState} (h : s.IsQuiet) {request : Request}
    {host : String} {goal : Goal} (hs : s.sought? request = some (host, goal))
    {during : List (CacheEvent γ)} (hd : ∀ e ∈ during, ¬ e.isOperation) :
    (asked (s.effects (.start request :: during))).map Flight.host
      = if (s.entries.known? host).isSome then [] else [host] := by
  obtain ⟨hasked, hpasses⟩ := start_of_no_pass (γ := γ) h.passes hs
  rw [effects, asked_append, (asked_of_no_pass hpasses hd).1, List.append_nil, hasked]

end HostDialing

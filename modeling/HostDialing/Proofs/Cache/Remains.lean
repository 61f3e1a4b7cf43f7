import HostDialing.Proofs.Cache.Lookups
import HostDialing.Proofs.Cache.Reduced
import HostDialing.Proofs.Dial.Isolation
import Mathlib.Data.Set.Finite.Basic

/-!
# What remains of a run

The events of a run that remain when one of its lookups is reduced to a plain one, or left out: of
the events of the task itself little does, and whoever made the task keeps the cache as long as the
task is under way, so a release in that time comes after it. What remains leads the reduced cache
where the run leads the cache, with the same effects in everybody else's name
(`CacheState.after_remaining`). A lookup that comes to no list may be left out.
-/

namespace HostDialing

variable {γ : Type}

/-- The cancellation of the token that what has come cancels. -/
def cancelling (hasCome : Bool) (cancels : Option Token) : List (CacheEvent γ) :=
  match hasCome, cancels with
  | true, some t => [.cancel t]
  | _, _ => []

/-- The end of a lookup that is kept. -/
def aborting (id : Nat) (kept : Bool) : List (CacheEvent γ) :=
  if kept then [.abort id] else []

/-- What remains of an event of the task: a plain lookup waits for the same answer, and does not
look at a token; what comes for the task cancels the token that it cancels. -/
def CacheState.remainder (s : CacheState) (id : Nat) (kept : Bool) :
    CacheEvent γ → List (CacheEvent γ)
  | .answer call answer cancels =>
    match s.task? id with
    | some (.resolving goal _) =>
      if (goal.cancelled? s).isSome then aborting id kept
      else if kept then [.answer call answer cancels] else cancelling answer.isSome cancels
    | _ => []
  | .outcome _ outcome cancels =>
    match s.task? id with
    | some (.attempting request _) =>
      if s.isCancelled request.token then [] else cancelling outcome.isSome cancels
    | _ => []
  | .abort _ => aborting id kept
  | _ => []

/-- What remains of an event: that of somebody else, and a release when the task is over. -/
def CacheState.remains (s : CacheState) (id : Nat) (kept : Bool) (e : CacheEvent γ) :
    List (CacheEvent γ) :=
  if s.subject? e = some id then
    s.remainder id kept e ++
      if (s.task? id).isSome ∧ (s.step e).1.task? id = none ∧ s.isReleased then [.release] else []
  else match e with
    | .release => if (s.task? id).isSome then [] else [.release]
    | e => [e]

/-- What remains of a run. -/
def CacheState.remaining (s : CacheState) (id : Nat) (kept : Bool) :
    List (CacheEvent γ) → List (CacheEvent γ)
  | [] => []
  | e :: es => s.remains id kept e ++ (s.step e).1.remaining id kept es

/-- In the run the lookup of the task comes to a list of addresses. -/
def CacheState.Finds (s : CacheState) (id : Nat) : List (CacheEvent γ) → Prop
  | [] => False
  | e :: es => (∃ host addresses, s.lookedUp? e = some (id, host, .ok addresses))
    ∨ (s.step e).1.Finds id es

/-- What is done in the name of others, or in nobody's. -/
def othersOf (id : Nat) (effects : List (CacheEffect γ)) : List (CacheEffect γ) :=
  effects.filter (·.task? ≠ some id)

@[simp]
theorem othersOf_append (id : Nat) (l l' : List (CacheEffect γ)) :
    othersOf id (l ++ l') = othersOf id l ++ othersOf id l' :=
  List.filter_append ..

theorem othersOf_eq_nil {id : Nat} {effects : List (CacheEffect γ)}
    (h : ∀ effect ∈ effects, effect.task? = some id) : othersOf id effects = [] :=
  List.filter_eq_nil_iff.2 fun effect hm => by simp [h effect hm]

theorem othersOf_learned (id : Nat) (host : String) (addresses : List String)
    (effects : List (CacheEffect γ)) :
    othersOf id (.learned host addresses :: effects)
      = .learned host addresses :: othersOf id effects :=
  List.filter_cons_of_pos (by simp [CacheEffect.task?])

theorem CacheState.after_cancelling (s : CacheState) (hasCome : Bool) (cancels : Option Token) :
    s.after (cancelling hasCome cancels : List (CacheEvent γ)) = s.cancelBy hasCome cancels
      ∧ s.effects (cancelling hasCome cancels : List (CacheEvent γ)) = [] := by
  rcases hasCome with _ | _ <;> rcases cancels with _ | t <;> exact ⟨rfl, rfl⟩

section own

variable (s : CacheState) (id : Nat) (kept isReleased : Bool)

theorem CacheState.removeTask_reduced_self :
    (s.reduced id kept isReleased).removeTask id
      = (s.removeTask id).reduced id kept isReleased := by
  have htasks : (s.reducedTasks id kept).filter (·.1 != id)
      = (s.removeTask id).reducedTasks id kept := by
    simp only [reducedTasks, removeTask, List.filter_filterMap, List.filterMap_filter]
    refine List.filterMap_congr fun entry _ => ?_
    obtain ⟨n, t⟩ := entry
    by_cases hid : n = id
    · subst hid
      rcases t.reduced? kept with _ | t' <;> simp
    · simp [hid]
  simp only [removeTask, reduced, htasks]

/-- A task of which nothing is left may as well be removed. -/
theorem CacheState.removeTask_of_nothing (h : ∀ t, (id, t) ∈ s.tasks → t.reduced? kept = none) :
    (s.removeTask id).reduced id kept isReleased = s.reduced id kept isReleased := by
  have htasks : (s.removeTask id).reducedTasks id kept = s.reducedTasks id kept := by
    simp only [reducedTasks, removeTask, List.filterMap_filter]
    refine List.filterMap_congr fun entry hm => ?_
    obtain ⟨n, t⟩ := entry
    by_cases hid : n = id
    · subst hid
      simp [h t hm]
    · simp [hid]
  simp only [reduced, htasks]
  rfl

theorem CacheState.removeTask_left_out :
    (s.removeTask id).reduced id false isReleased = s.reduced id false isReleased :=
  s.removeTask_of_nothing id false isReleased fun t _ => by cases t <;> rfl

theorem CacheState.after_aborting :
    let t := s.reduced id kept isReleased
    t.after (aborting id kept : List (CacheEvent γ)) = (s.removeTask id).reduced id kept isReleased
      ∧ t.effects (aborting id kept : List (CacheEvent γ)) = [] := by
  rcases kept with _ | _
  · exact ⟨(s.removeTask_left_out id isReleased).symm, rfl⟩
  · exact ⟨s.removeTask_reduced_self id true isReleased, rfl⟩

/-- A dial whose lookup is over is reduced to nothing. -/
theorem CacheState.setTask_attempting_reduced (request : DialRequest) (attempts : Attempts) :
    (s.setTask id (.attempting request attempts)).reduced id kept isReleased
      = (s.removeTask id).reduced id kept isReleased := by
  have htasks : (s.setTask id (.attempting request attempts)).reducedTasks id kept
      = (s.removeTask id).reducedTasks id kept := by
    simp only [reducedTasks, setTask, removeTask, List.filterMap_filter, List.filterMap_map]
    refine List.filterMap_congr fun entry _ => ?_
    obtain ⟨n, t⟩ := entry
    by_cases hid : n = id
    · simp [hid, Task.reduced?]
    · simp [hid]
  simp only [reduced, htasks]
  rfl

theorem CacheState.attemptNext_reduced_self (request : DialRequest) (attempts : Attempts) :
    (s.attemptNext id request attempts : Stepped γ).1.reduced id kept isReleased
      = (s.removeTask id).reduced id kept isReleased := by
  unfold attemptNext
  split
  · rfl
  · exact s.setTask_attempting_reduced id kept isReleased request _

theorem CacheState.reach_reduced_self (host : String) (goal : Goal)
    (result : Except ResolutionError (List String)) :
    (s.reach id host goal result : Stepped γ).1.reduced id kept isReleased
      = (s.removeTask id).reduced id kept isReleased := by
  unfold reach
  split
  all_goals try rfl
  exact s.attemptNext_reduced_self id kept isReleased _ _

end own

theorem CacheState.owner?_reduced_self {s : CacheState} {id call : Nat} {goal : Goal}
    {flight : Flight} (h : s.owner? call = some (.lookup id goal flight)) (isReleased : Bool) :
    (s.reduced id true isReleased).owner? call = some (.lookup id .addresses flight) := by
  have hfind : (s.tasks.findSome? fun entry => entry.2.owner? entry.1 call)
      = some (.lookup id goal flight) := by
    simp only [owner?] at h
    split at h
    · rename_i ho
      rw [ho, h]
    · rcases hb : s.background with ticker | ⟨ticker, pass⟩ | _ <;>
        simp [hb, Background.owner?] at h
  suffices hreduced : ((s.reducedTasks id true).findSome? fun entry => entry.2.owner? entry.1 call)
      = some (.lookup id .addresses flight) by
    simp only [owner?, reduced, hreduced]
  unfold reducedTasks
  generalize s.tasks = tasks at hfind ⊢
  induction tasks with
  | nil => cases hfind
  | cons entry tasks ih =>
    obtain ⟨n, t⟩ := entry
    rw [List.findSome?_cons] at hfind
    rw [List.filterMap_cons]
    rcases ho : t.owner? n call with _ | owner
    · simp only [ho] at hfind
      by_cases hn : n = id
      · subst hn
        rcases ht : t.reduced? true with _ | t'
        · simpa [ht] using ih hfind
        · simpa [ht, List.findSome?_cons, Task.owner?_of_reduced? ht ho] using ih hfind
      · simpa [hn, List.findSome?_cons, ho] using ih hfind
    · simp only [ho] at hfind
      obtain rfl := Option.some.inj hfind
      obtain rfl : n = id := (Option.some.inj (Task.id?_of_owner? ho)).symm
      rcases t with ⟨goal', flight'⟩ | ⟨request, attempts⟩ | pass
      · simp only [Task.owner?] at ho
        split_ifs at ho with hc
        obtain ⟨-, -, rfl⟩ := Owner.lookup.inj (Option.some.inj ho)
        simp [Task.reduced?, Task.owner?, hc]
      · cases ho
      · simp [Task.owner?] at ho

/-- Whatever the lookup of a task comes to, only the list that it learns is not its own. -/
theorem CacheState.othersOf_reach (s : CacheState) (id : Nat) (host : String) (goal : Goal)
    (result : Except ResolutionError (List String)) :
    othersOf id (s.reach id host goal result : Stepped γ).2 = [] :=
  othersOf_eq_nil (Stepped.Drops.reach s id host goal result).effects

/-- The end of the lookup's question is that of a plain lookup. -/
theorem CacheState.endLookup_reduced_self (s : CacheState) (id : Nat) (isReleased : Bool)
    (goal : Goal) (flight : Flight) (answer : Option Answer) :
    let r : Stepped γ := s.endLookup id goal flight answer
    let r' : Stepped γ := (s.reduced id true isReleased).endLookup id .addresses flight answer
    r'.1 = r.1.reduced id true isReleased ∧ othersOf id r'.2 = othersOf id r.2 := by
  have hs : (s.reduced id true isReleased).settings = s.settings := rfl
  simp only [endLookup, hs]
  split
  · rename_i addresses _
    set u : CacheState := { s with entries := s.entries.insert flight.host addresses }
    refine ⟨?_, ?_⟩
    · simp only [reach_reduced_self]
      exact u.removeTask_reduced_self id true isReleased
    · simp only [othersOf_learned, othersOf_reach]
  · refine ⟨?_, ?_⟩
    · rw [reach_reduced_self]
      exact s.removeTask_reduced_self id true isReleased
    · rw [othersOf_reach, othersOf_reach]

section remainder

variable {s : CacheState} {id : Nat}

/-- The answer of a lookup that is kept. -/
theorem CacheState.answer_remainder_kept {goal : Goal} {flight : Flight} {call : Nat}
    (ho : s.owner? call = some (.lookup id goal flight)) (hc : goal.cancelled? s = none)
    (isReleased : Bool) (answer : Option Answer) (cancels : Option Token) :
    let r : Stepped γ := s.takeAnswer call answer cancels
    let r' : Stepped γ := (s.reduced id true isReleased).takeAnswer call answer cancels
    r'.1 = r.1.reduced id true isReleased ∧ othersOf id r'.2 = othersOf id r.2 := by
  have hnow : ((s.cancelBy answer.isSome cancels).reduced id true isReleased).now
      = (s.cancelBy answer.isSome cancels).now := rfl
  have hplain : Goal.addresses.cancelled? (s.reduced id true isReleased) = none := rfl
  simp only [takeAnswer, ho, owner?_reduced_self ho isReleased, hc, hplain, cancelBy_reduced, hnow]
  rcases flight.outcome? (s.cancelBy answer.isSome cancels).now answer with _ | a
  · exact ⟨rfl, rfl⟩
  · exact (s.cancelBy answer.isSome cancels).endLookup_reduced_self id isReleased goal flight a

/-- The answer of a lookup that is left out, and comes to no list. -/
theorem CacheState.answer_remainder_left_out {goal : Goal} {flight : Flight} {call : Nat}
    {answer : Option Answer} {cancels : Option Token}
    (ho : s.owner? call = some (.lookup id goal flight)) (hc : goal.cancelled? s = none)
    (hfinds : ∀ host addresses,
      s.lookedUp? (.answer call answer cancels : CacheEvent γ) ≠ some (id, host, .ok addresses))
    (isReleased : Bool) :
    let r : Stepped γ := s.takeAnswer call answer cancels
    (s.cancelBy answer.isSome cancels).reduced id false isReleased
        = r.1.reduced id false isReleased ∧ othersOf id r.2 = [] := by
  have hnow : (s.cancelBy answer.isSome cancels).now = s.now := by
    obtain ⟨cancelled, -, h⟩ := s.cancelBy_eq answer.isSome cancels
    rw [h]
  have hsettings : (s.cancelBy answer.isSome cancels).settings = s.settings := by
    obtain ⟨cancelled, -, h⟩ := s.cancelBy_eq answer.isSome cancels
    rw [h]
  simp only [takeAnswer, ho, hc, hnow]
  rcases ha : flight.outcome? s.now answer with _ | a
  · exact ⟨rfl, rfl⟩
  have hended : s.ended? (.answer call answer cancels : CacheEvent γ)
      = some (.lookup id goal flight, a) := by
    simp [ended?, ho, Owner.cancelled?, hc, Owner.flight, ha]
  have hlooked := lookedUp_of_ended hended
  simp only [endLookup, hsettings]
  rcases hr : resolved flight.host s.settings.lookupTimeout a with error | addresses
  · simp only [reach_reduced_self, removeTask_left_out, othersOf_reach, and_self]
  · rw [hr] at hlooked
    exact absurd hlooked (hfinds _ _)

/-- The outcome of an attempt. -/
theorem CacheState.outcome_remainder (hn : s.Numbered) {request : DialRequest}
    {attempts : Attempts} (ht : s.task? id = some (.attempting request attempts))
    (kept isReleased : Bool) (outcome : Option (Except IoError γ)) (cancels : Option Token) :
    let t := s.reduced id kept isReleased
    let e : CacheEvent γ := .outcome id outcome cancels
    t.after (s.remainder id kept e) = (s.step e).1.reduced id kept isReleased
      ∧ othersOf id (t.effects (s.remainder id kept e)) = othersOf id (s.step e).2 := by
  intro t e
  have hnothing : ∀ u : CacheState, u.tasks = s.tasks →
      (u.removeTask id).reduced id kept isReleased = u.reduced id kept isReleased := by
    intro u hu
    refine u.removeTask_of_nothing id kept isReleased fun left hm => ?_
    have hleft := hn.task?_of_mem (hu ▸ hm)
    obtain rfl := Option.some.inj (ht.symm.trans hleft)
    rfl
  by_cases hc : request.token ∈ s.cancelled
  · have hc' : s.isCancelled request.token := by simpa [isCancelled] using hc
    simp only [e, remainder, ht, if_pos hc', step_outcome_cancelled ht hc, hnothing s rfl]
    exact ⟨rfl, by simp [othersOf, effects, CacheEffect.task?]⟩
  have hc' : ¬ s.isCancelled request.token := by simpa [isCancelled] using hc
  obtain ⟨hafter, heffects⟩ := t.after_cancelling (γ := γ) outcome.isSome cancels
  simp only [e, remainder, ht, if_neg hc', step_outcome_of_attempting ht hc, hafter, heffects]
  rw [s.cancelBy_reduced kept isReleased]
  rcases outcome with _ | error | connection
  · exact ⟨rfl, rfl⟩
  · refine ⟨?_, (othersOf_eq_nil (Stepped.Drops.attemptNext _ id request _).effects).symm⟩
    rw [attemptNext_reduced_self, hnothing _ (s.tasks_cancelBy _ _)]
    rfl
  · refine ⟨(hnothing _ (s.tasks_cancelBy _ _)).symm, ?_⟩
    simp [othersOf, CacheEffect.task?]

end remainder

theorem CacheState.after_remainder {s : CacheState} (hn : s.Numbered) {id : Nat}
    (hlt : id < s.nextTask) (hlooks : s.LooksUp id) {e : CacheEvent γ}
    (hsubject : s.subject? e = some id) {kept : Bool}
    (hfinds : kept = true ∨ ∀ host addresses, s.lookedUp? e ≠ some (id, host, .ok addresses))
    (isReleased : Bool) :
    let t := s.reduced id kept isReleased
    t.after (s.remainder id kept e) = (s.step e).1.reduced id kept isReleased
      ∧ othersOf id (t.effects (s.remainder id kept e)) = othersOf id (s.step e).2 := by
  intro t
  obtain ⟨habort, habortEffects⟩ := s.after_aborting (γ := γ) id kept isReleased
  rcases e with request | ⟨call, answer, cancels⟩ | ⟨task, outcome, cancels⟩ | token | task
    | _ | _ | _ | hosts | nanos
  case start =>
    obtain rfl : s.nextTask = id := Option.some.inj hsubject
    exact absurd hlt (Nat.lt_irrefl _)
  case answer =>
    obtain ⟨owner, ho, hid⟩ := Option.bind_eq_some_iff.1 hsubject
    rcases (owner?_spec ho).1.task? hn hid with ⟨goal, flight, rfl, ht⟩ | ⟨pass, flight, -, ht⟩
    · rcases hc : goal.cancelled? s with _ | error
      · rcases kept with _ | _
        · have hfinds := hfinds.resolve_left Bool.false_ne_true
          obtain ⟨hstate, heffects⟩ :=
            answer_remainder_left_out (γ := γ) ho hc hfinds isReleased
          obtain ⟨hafter, hnothing⟩ :=
            t.after_cancelling (γ := γ) answer.isSome cancels
          simp only [remainder, ht, hc, Option.isSome_none, Bool.false_eq_true, if_false, step,
            hafter, hnothing, heffects, ← hstate]
          exact ⟨s.cancelBy_reduced false isReleased answer.isSome cancels, rfl⟩
        · simp only [remainder, ht, hc, Option.isSome_none, Bool.false_eq_true, if_false, if_true,
            after_singleton, effects_singleton]
          exact answer_remainder_kept ho hc isReleased answer cancels
      · simp only [t, remainder, ht, hc, Option.isSome_some, if_true, habort, habortEffects, step,
          takeAnswer, ho]
        exact ⟨trivial, by simp [othersOf, CacheEffect.task?]⟩
    · exact absurd ht (hlooks pass)
  case outcome =>
    obtain rfl : task = id := Option.some.inj hsubject
    rcases ht : s.task? task with _ | ⟨goal, flight⟩ | ⟨request, attempts⟩ | pass
    case some.attempting => exact outcome_remainder hn ht kept isReleased outcome cancels
    all_goals
      simp only [remainder, ht, step, takeOutcome]
      exact ⟨rfl, rfl⟩
  case abort =>
    obtain rfl : task = id := Option.some.inj hsubject
    exact ⟨habort, congrArg (othersOf task) habortEffects⟩
  all_goals simp [subject?] at hsubject

/-- A task that is over leaves nothing to reduce. -/
theorem CacheState.reducedTasks_of_gone {s : CacheState} {id : Nat} (h : s.task? id = none)
    (kept : Bool) : s.reducedTasks id kept = s.tasks := by
  refine (List.filterMap_congr fun entry hm => ?_).trans List.filterMap_some
  rw [if_neg fun hid => ?_]
  have hne := List.lookup_eq_none_iff.1 h entry hm
  simp [hid] at hne

theorem CacheState.reduced_of_gone {s : CacheState} {id : Nat} (h : s.task? id = none)
    (kept isReleased : Bool) :
    s.reduced id kept isReleased = { s with isReleased := isReleased } := by
  rw [reduced, reducedTasks_of_gone h]

/-- Only a release releases. The step is the same on the cache without a task that it does not have,
released or not. -/
theorem CacheState.isReleased_step (s : CacheState) {e : CacheEvent γ} (h : e ≠ .release) :
    (s.step e).1.isReleased = s.isReleased := by
  obtain ⟨id, hid⟩ := Infinite.exists_notMem_finset (s.ids ++ (s.subject? e).toList).toFinset
  have hid : id ∉ s.ids ∧ s.subject? e ≠ some id := by simpa using hid
  have hs := s.reduced_of_gone (task?_eq_none hid.1) false s.isReleased
  have hstep := step_reduced (γ := γ) hid.2 h false (congrArg isAlive hs)
  rw [hs] at hstep
  exact congrArg (fun r : Stepped γ => r.1.isReleased) hstep

/-- The cache with a task reduced, kept by whoever made the task until that is over. -/
def CacheState.held (s : CacheState) (id : Nat) (kept : Bool) : CacheState :=
  s.reduced id kept (s.isReleased && (s.task? id).isNone)

theorem CacheState.isAlive_held (s : CacheState) (id : Nat) (kept : Bool) :
    (s.held id kept).isAlive = s.isAlive := by
  rcases ht : s.task? id with _ | t
  · rw [held, ht, reduced_of_gone ht]
    simp [isAlive]
  · have hm := mem_tasks_of_task? ht
    have htasks : s.tasks ≠ [] := List.ne_nil_of_mem hm
    simp [held, ht, isAlive, reduced, htasks]

/-- What remains of a step leads where the step leads. -/
theorem CacheState.after_remains {s : CacheState} (hn : s.Numbered) {id : Nat}
    (hlt : id < s.nextTask) (hlooks : s.LooksUp id) {e : CacheEvent γ} {kept : Bool}
    (hfinds : kept = true ∨ ∀ host addresses, s.lookedUp? e ≠ some (id, host, .ok addresses)) :
    (s.held id kept).after (s.remains id kept e) = (s.step e).1.held id kept
      ∧ othersOf id ((s.held id kept).effects (s.remains id kept e))
        = othersOf id (s.step e).2 := by
  by_cases hrelease : e = .release
  · subst hrelease
    have hheld : (s.step (.release : CacheEvent γ)).1.held id kept
        = s.reduced id kept (s.task? id).isNone := by
      show s.reduced id kept (true && (s.task? id).isNone) = _
      rw [Bool.true_and]
    rw [hheld, remains, if_neg (by simp [subject?]), held]
    rcases ht : s.task? id with _ | t
    · exact ⟨by simp [after, step, reduced], by simp [effects, step]⟩
    · exact ⟨by simp [after], by simp [effects, step]⟩
  have hreleased := s.isReleased_step hrelease
  by_cases hsubject : s.subject? e = some id
  · obtain ⟨hafter, heffects⟩ := after_remainder hn hlt hlooks hsubject hfinds
      (s.isReleased && (s.task? id).isNone)
    have hremains : s.remains id kept e = s.remainder id kept e ++
        if (s.task? id).isSome ∧ (s.step e).1.task? id = none ∧ s.isReleased then [.release]
        else [] := by
      rw [remains, if_pos hsubject]
      exact hrelease
    have hgone : s.task? id = none → (s.step e).1.task? id = none := fun ht =>
      (step_of_gone hn hlt ht e).1
    rw [hremains, after_append, effects_append, othersOf_append, held, hafter,
      heffects, held, hreleased]
    split_ifs with hover
    · obtain ⟨-, ht, hs⟩ := hover
      rw [ht, hs]
      exact ⟨rfl, List.append_nil _⟩
    · refine ⟨congrArg ((s.step e).1.reduced id kept) ?_, by simp [effects, othersOf]⟩
      rcases ht : s.task? id with _ | t
      · rw [hgone ht]
      · rcases ht' : (s.step e).1.task? id with _ | t'
        · rw [ht, ht'] at hover
          simpa using hover
        · simp
  · have htask := (s.step_only e).task? id hsubject
    have hstep := step_reduced (γ := γ) hsubject hrelease kept (s.isAlive_held id kept)
    have hremains : s.remains id kept e = [e] := by
      rw [remains, if_neg hsubject]
      exact hrelease
    rw [hremains, after_singleton, effects_singleton, held, hstep, held, hreleased, htask]
    exact ⟨rfl, rfl⟩

theorem CacheState.after_remaining {id : Nat} (kept : Bool) (es : List (CacheEvent γ)) :
    ∀ {s : CacheState}, s.Numbered → id < s.nextTask → s.LooksUp id →
      kept = true ∨ ¬ s.Finds id es →
      (s.held id kept).after (s.remaining id kept es) = (s.after es).held id kept
        ∧ othersOf id ((s.held id kept).effects (s.remaining id kept es))
          = othersOf id (s.effects es) := by
  induction es with
  | nil => exact fun _ _ _ _ => ⟨rfl, rfl⟩
  | cons e es ih =>
    intro s hn hlt hlooks hfinds
    have hlt' : id < (s.step e).1.nextTask := Nat.lt_of_lt_of_le hlt (hn.nextTask_after [e])
    obtain ⟨hafter, heffects⟩ := after_remains hn hlt hlooks (e := e) (hfinds.imp_right
      fun h host addresses hl => h (.inl ⟨host, addresses, hl⟩))
    obtain ⟨hrest, hrestEffects⟩ := ih (hn.step e) hlt' (hlooks.step hn hlt e)
      (hfinds.imp_right fun h hf => h (.inr hf))
    rw [remaining, after_append, effects_append, othersOf_append, hafter, heffects, hrest,
      hrestEffects, effects, othersOf_append]
    exact ⟨rfl, rfl⟩

end HostDialing

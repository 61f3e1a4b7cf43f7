import HostDialing.Proofs.Dial.Failover

/-!
# A lookup left out

What a cache owes to one of its lookups shows on the cache without it. A task that looks a host up,
whatever for, is reduced to a plain lookup, or left out altogether (`CacheState.reduced`). Each step
that is about somebody else does the same to the reduced cache (`CacheState.step_reduced`).
-/

namespace HostDialing

variable {γ : Type}

/-- What is left of a task where it is a plain lookup, if it is kept as one, for as long as its
question is open. -/
def Task.reduced? (kept : Bool) : Task → Option Task
  | resolving _ flight => if kept then some (.resolving .addresses flight) else none
  | _ => none

def CacheState.reducedTasks (s : CacheState) (id : Nat) (kept : Bool) : List (Nat × Task) :=
  s.tasks.filterMap fun entry =>
    if entry.1 = id then (entry.2.reduced? kept).map (id, ·) else some entry

/-- The cache with a task reduced, released or not. -/
def CacheState.reduced (s : CacheState) (id : Nat) (kept isReleased : Bool) : CacheState :=
  { s with tasks := s.reducedTasks id kept, isReleased := isReleased }

def Stepped.reduced (r : Stepped γ) (id : Nat) (kept isReleased : Bool) : Stepped γ :=
  (r.1.reduced id kept isReleased, r.2)

section frame

variable (s : CacheState) {id other : Nat} (h : other ≠ id) (kept isReleased : Bool)

include h

theorem CacheState.removeTask_reduced :
    (s.reduced id kept isReleased).removeTask other
      = (s.removeTask other).reduced id kept isReleased := by
  have htasks : (s.reducedTasks id kept).filter (·.1 != other)
      = (s.removeTask other).reducedTasks id kept := by
    simp only [reducedTasks, removeTask, List.filter_filterMap, List.filterMap_filter]
    refine List.filterMap_congr fun entry _ => ?_
    obtain ⟨n, t⟩ := entry
    by_cases hid : n = id
    · subst hid
      rcases t.reduced? kept with _ | t' <;> simp [Ne.symm h]
    · by_cases ho : n = other <;> simp [hid, ho, h]
  simp only [removeTask, reduced, htasks]

theorem CacheState.setTask_reduced (t : Task) :
    (s.reduced id kept isReleased).setTask other t
      = (s.setTask other t).reduced id kept isReleased := by
  have htasks : (s.reducedTasks id kept).map (fun entry =>
        if entry.1 = other then (other, t) else entry)
      = (s.setTask other t).reducedTasks id kept := by
    simp only [reducedTasks, setTask, List.map_filterMap, List.filterMap_map]
    refine List.filterMap_congr fun entry _ => ?_
    obtain ⟨n, u⟩ := entry
    by_cases hid : n = id
    · subst hid
      rcases hu : u.reduced? kept with _ | u' <;> simp [Ne.symm h, hu]
    · by_cases ho : n = other <;> simp [hid, ho, h]
  simp only [setTask, reduced, htasks]

theorem CacheState.addTask_reduced (t : Task) :
    (s.reduced id kept isReleased).addTask other t
      = (s.addTask other t).reduced id kept isReleased := by
  have htasks : s.reducedTasks id kept ++ [(other, t)]
      = (s.addTask other t).reducedTasks id kept := by
    simp [reducedTasks, addTask, h]
  simp only [addTask, reduced, htasks]

theorem CacheState.task?_reduced : (s.reduced id kept isReleased).task? other = s.task? other := by
  simp only [task?, reduced, reducedTasks]
  induction s.tasks with
  | nil => rfl
  | cons entry rest ih =>
    obtain ⟨n, t⟩ := entry
    by_cases hid : n = id
    · subst hid
      have ho : (other == n) = false := by simp [h]
      rw [List.filterMap_cons, if_pos rfl]
      rcases t.reduced? kept with _ | t' <;> simp [List.lookup_cons, ho, ih]
    · rw [List.filterMap_cons, if_neg hid]
      simp [List.lookup_cons, ih]

theorem CacheState.attemptNext_reduced (request : DialRequest) (attempts : Attempts) :
    ((s.reduced id kept isReleased).attemptNext other request attempts : Stepped γ)
      = Stepped.reduced (s.attemptNext other request attempts) id kept isReleased := by
  have hc : (s.reduced id kept isReleased).isCancelled = s.isCancelled := rfl
  simp only [attemptNext, hc, removeTask_reduced s h, setTask_reduced s h]
  split <;> rfl

theorem CacheState.reach_reduced (host : String) (goal : Goal)
    (result : Except ResolutionError (List String)) :
    ((s.reduced id kept isReleased).reach other host goal result : Stepped γ)
      = Stepped.reduced (s.reach other host goal result) id kept isReleased := by
  simp only [reach, removeTask_reduced s h, attemptNext_reduced s h]
  split <;> rfl

theorem CacheState.lookUp_reduced (host : String) (goal : Goal) :
    ((s.reduced id kept isReleased).lookUp other host goal : Stepped γ)
      = Stepped.reduced (s.lookUp other host goal) id kept isReleased := by
  have hk : (s.reduced id kept isReleased).entries = s.entries := rfl
  simp only [lookUp, hk, addTask_reduced s h]
  split
  · exact reach_reduced (s.addTask other _) h kept isReleased host goal _
  · rfl

theorem CacheState.keepRefresh_reduced (p : Pass) :
    ((s.reduced id kept isReleased).keepRefresh other p : Stepped γ)
      = Stepped.reduced (s.keepRefresh other p) id kept isReleased := by
  simp only [keepRefresh, removeTask_reduced s h, setTask_reduced s h]
  split <;> rfl

theorem CacheState.endLookup_reduced (goal : Goal) (flight : Flight) (answer : Option Answer) :
    ((s.reduced id kept isReleased).endLookup other goal flight answer : Stepped γ)
      = Stepped.reduced (s.endLookup other goal flight answer) id kept isReleased := by
  have hs : (s.reduced id kept isReleased).settings = s.settings := rfl
  simp only [endLookup, hs]
  split
  · rename_i addresses _
    have hr := reach_reduced (γ := γ) { s with entries := s.entries.insert flight.host addresses } h
      kept isReleased flight.host goal (.ok addresses)
    exact congrArg (fun r : Stepped γ => (r.1, .learned flight.host addresses :: r.2)) hr
  · exact reach_reduced s h kept isReleased flight.host goal _

omit h

theorem CacheState.cancelBy_reduced (hasCome : Bool) (cancels : Option Token) :
    (s.reduced id kept isReleased).cancelBy hasCome cancels
      = (s.cancelBy hasCome cancels).reduced id kept isReleased := by
  unfold cancelBy
  split <;> rfl

end frame

theorem Task.id?_of_owner? {id call : Nat} {t : Task} {owner : Owner}
    (h : t.owner? id call = some owner) : owner.id? = some id := by
  rcases t with ⟨goal, flight⟩ | ⟨request, attempts⟩ | pass
  · simp only [owner?] at h
    split_ifs at h
    obtain rfl := Option.some.inj h
    rfl
  · simp [owner?] at h
  · obtain ⟨flight, -, rfl⟩ := Option.map_eq_some_iff.1 h
    rfl

/-- A task that waits for no answer waits for none when it is reduced. -/
theorem Task.owner?_of_reduced? {id call : Nat} {t t' : Task} {kept : Bool}
    (ht : t.reduced? kept = some t') (h : t.owner? id call = none) : t'.owner? id call = none := by
  rcases t with ⟨goal, flight⟩ | ⟨request, attempts⟩ | pass
  · rcases kept with _ | _
    · cases ht
    · obtain rfl := Option.some.inj ht
      simp only [owner?] at h ⊢
      split_ifs at h ⊢
      rfl
  · cases ht
  · cases ht

theorem CacheState.owner?_reduced {s : CacheState} {id call : Nat}
    (h : ∀ owner, s.owner? call = some owner → owner.id? ≠ some id) (kept isReleased : Bool) :
    (s.reduced id kept isReleased).owner? call = s.owner? call := by
  suffices hfind : ∀ tasks : List (Nat × Task),
      (∀ owner, (tasks.findSome? fun entry => entry.2.owner? entry.1 call) = some owner →
        owner.id? ≠ some id) →
      ((tasks.filterMap fun entry => if entry.1 = id then (entry.2.reduced? kept).map (id, ·)
          else some entry).findSome? fun entry => entry.2.owner? entry.1 call)
        = tasks.findSome? fun entry => entry.2.owner? entry.1 call by
    simp only [owner?, reduced, reducedTasks]
    rw [hfind]
    intro owner ho
    exact h owner (by simp only [owner?, ho])
  intro tasks
  induction tasks with
  | nil => exact fun _ => rfl
  | cons entry tasks ih =>
    obtain ⟨n, t⟩ := entry
    intro htasks
    rw [List.findSome?_cons] at htasks ⊢
    rcases ho : t.owner? n call with _ | owner
    · simp only [ho] at htasks ⊢
      rw [← ih htasks, List.filterMap_cons]
      by_cases hn : n = id
      · subst hn
        rcases ht : t.reduced? kept with _ | t'
        · simp
        · simp [Task.owner?_of_reduced? ht ho]
      · simp [hn, ho]
    · simp only [ho] at htasks ⊢
      have hn : n ≠ id := fun hn => htasks owner rfl (hn ▸ Task.id?_of_owner? ho)
      rw [List.filterMap_cons, if_neg hn]
      simp [ho]

section steps

variable (s : CacheState) {id : Nat} (kept isReleased : Bool)

theorem CacheState.start_reduced (h : s.nextTask ≠ id) (request : Request) :
    ((s.reduced id kept isReleased).start request : Stepped γ)
      = Stepped.reduced (s.start request) id kept isReleased := by
  have hlookUp (host : String) (goal : Goal) :=
    lookUp_reduced (γ := γ) { s with nextTask := s.nextTask + 1 } h kept isReleased host goal
  rcases request with host | host | ⟨host, order⟩ | request | hosts
  case dial =>
    have hc : (({ s.reduced id kept isReleased with
      nextTask := s.nextTask + 1 } : CacheState).isCancelled request.token)
        = ({ s with nextTask := s.nextTask + 1 } : CacheState).isCancelled request.token := rfl
    simp only [start]
    split
    · rfl
    · rename_i target _
      by_cases hm : ({ s with nextTask := s.nextTask + 1 } : CacheState).isCancelled request.token
      · rw [if_pos hm]
        exact if_pos hm
      · rw [if_neg hm]
        exact (if_neg hm).trans (hlookUp target.host (.dial request target.port))
  case refresh =>
    have hadd := addTask_reduced { s with nextTask := s.nextTask + 1 } h kept isReleased
      (.refreshing (Pass.over (s.passHosts hosts)))
    have hr : (s.reduced id kept isReleased).refreshing hosts
        = (s.refreshing hosts).reduced id kept isReleased :=
      congrArg (fun u : CacheState => { u with
        nextCall := s.nextCall + (s.firstAsked hosts).length }) hadd
    have hk := keepRefresh_reduced (γ := γ) (s.refreshing hosts) h kept isReleased
      (s.firstPass hosts)
    rw [← hr] at hk
    exact congrArg (fun r : Stepped γ => (r.1, (s.firstAsked hosts).map .resolve ++ r.2)) hk
  all_goals exact hlookUp _ _

theorem CacheState.takeAnswer_reduced {call : Nat}
    (h : ∀ owner, s.owner? call = some owner → owner.id? ≠ some id) (answer : Option Answer)
    (cancels : Option Token) :
    ((s.reduced id kept isReleased).takeAnswer call answer cancels : Stepped γ)
      = Stepped.reduced (s.takeAnswer call answer cancels) id kept isReleased := by
  simp only [takeAnswer, owner?_reduced h, cancelBy_reduced]
  set t := s.cancelBy answer.isSome cancels
  have hnow : (t.reduced id kept isReleased).now = t.now := rfl
  rcases ho : s.owner? call with _ | ⟨other, goal, flight⟩ | ⟨other, pass, flight⟩
      | ⟨ticker, pass, flight⟩
  · rfl
  · have hne : other ≠ id := fun heq => h _ ho (congrArg some heq)
    have hc : goal.cancelled? (s.reduced id kept isReleased) = goal.cancelled? s := by
      cases goal <;> rfl
    simp only [hc, hnow]
    rcases goal.cancelled? s with _ | error
    · rcases flight.outcome? t.now answer with _ | a
      · rfl
      · exact endLookup_reduced t hne kept isReleased goal flight a
    · simp only [removeTask_reduced s hne]
      rfl
  · have hne : other ≠ id := fun heq => h _ ho (congrArg some heq)
    simp only [hnow]
    rcases flight.outcome? t.now answer with _ | a
    · rfl
    · have hk := keepRefresh_reduced (γ := γ)
        (t.endQuestion pass flight a : Pass × CacheState × List (CacheEffect γ)).2.1 hne kept
        isReleased (t.endQuestion pass flight a : Pass × CacheState × List (CacheEffect γ)).1
      exact congrArg (fun r : Stepped γ => (r.1, (t.endQuestion pass flight a).2.2 ++ r.2)) hk
  · simp only [hnow]
    rcases flight.outcome? t.now answer with _ | a <;> rfl

theorem CacheState.takeOutcome_reduced {other : Nat} (h : other ≠ id)
    (outcome : Option (Except IoError γ)) (cancels : Option Token) :
    (s.reduced id kept isReleased).takeOutcome other outcome cancels
      = Stepped.reduced (s.takeOutcome other outcome cancels) id kept isReleased := by
  simp only [takeOutcome, task?_reduced s h, cancelBy_reduced]
  set t := s.cancelBy outcome.isSome cancels
  split
  · rename_i request attempts _
    have hc : (s.reduced id kept isReleased).isCancelled = s.isCancelled := rfl
    rw [hc, removeTask_reduced s h, removeTask_reduced t h]
    split
    · rfl
    · rcases outcome with _ | error | connection
      · rfl
      · exact attemptNext_reduced t h kept isReleased request _
      · rfl
  · rfl

theorem CacheState.takeTick_reduced (h : (s.reduced id kept isReleased).isAlive = s.isAlive)
    (hosts : List String) :
    ((s.reduced id kept isReleased).takeTick hosts : Stepped γ)
      = Stepped.reduced (s.takeTick hosts) id kept isReleased := by
  have hb : (s.reduced id kept isReleased).background = s.background := rfl
  have hnow : (s.reduced id kept isReleased).now = s.now := rfl
  simp only [takeTick, hb, hnow, h]
  split
  · split_ifs <;> rfl
  · rfl

end steps

/-- The step of somebody else is the same on the reduced cache, if that is as much alive. -/
theorem CacheState.step_reduced {s : CacheState} {id : Nat} {e : CacheEvent γ}
    (h : s.subject? e ≠ some id) (hrelease : e ≠ .release) (kept : Bool) {isReleased : Bool}
    (halive : (s.reduced id kept isReleased).isAlive = s.isAlive) :
    (s.reduced id kept isReleased).step e = Stepped.reduced (s.step e) id kept isReleased := by
  rcases e with request | ⟨call, answer, cancels⟩ | ⟨task, outcome, cancels⟩ | token | task
    | _ | _ | _ | hosts | nanos
  case start => exact s.start_reduced kept isReleased (fun hid => h (congrArg some hid)) request
  case answer =>
    refine s.takeAnswer_reduced kept isReleased (fun owner ho hid => h ?_) answer cancels
    simp only [subject?, ho, Option.bind_some, hid]
  case outcome =>
    exact s.takeOutcome_reduced kept isReleased (fun hid => h (congrArg some hid)) outcome cancels
  case abort =>
    exact congrArg (·, []) (s.removeTask_reduced (fun hid => h (congrArg some hid)) kept isReleased)
  case release => exact absurd rfl hrelease
  case tick => exact s.takeTick_reduced kept isReleased halive hosts
  all_goals rfl

end HostDialing

import HostDialing.Proofs.Cache.Tasks
import Mathlib.Data.List.Flatten
import Mathlib.Data.List.Nodup
import Mathlib.Data.List.Perm.Subperm

/-!
# The questions in the air

Tasks and questions are numbered as they begin, and no number comes twice: `CacheState.Numbered`
holds in every reachable state. A step ends questions and begins others, which are the ones that it
asks the resolver (`CacheState.step_counted`). So the number of an answer names one question, of
one host and one task (`CacheState.Numbered.owner?_of_task`), and a task for which nothing has come
is left as it is (`CacheState.step_beside`).
-/

namespace HostDialing

variable {γ : Type}

def Task.flights : Task → List Flight
  | resolving _ flight => [flight]
  | attempting _ _ => []
  | refreshing pass => pass.inFlight

def Background.flights : Background → List Flight
  | passing _ pass => pass.inFlight
  | _ => []

def CacheState.ids (s : CacheState) : List Nat := s.tasks.map Prod.fst

/-- The questions whose answers are waited for. -/
def CacheState.flights (s : CacheState) : List Flight :=
  s.tasks.flatMap (·.2.flights) ++ s.background.flights

structure CacheState.Numbered (s : CacheState) : Prop where
  ids_nodup : s.ids.Nodup
  ids_lt : ∀ id ∈ s.ids, id < s.nextTask
  calls_nodup : (s.flights.map Flight.call).Nodup
  calls_lt : ∀ flight ∈ s.flights, flight.call < s.nextCall

/-! ## The table of tasks and its questions -/

theorem CacheState.mem_ids_of_task? {s : CacheState} {id : Nat} {t : Task}
    (h : s.task? id = some t) : id ∈ s.ids := by
  obtain ⟨l₁, l₂, hl, -⟩ := List.lookup_eq_some_iff.1 h
  simp [ids, hl]

theorem CacheState.task?_eq_none {s : CacheState} {id : Nat} (h : id ∉ s.ids) :
    s.task? id = none := by
  rcases ht : s.task? id with _ | t
  · rfl
  · exact absurd (mem_ids_of_task? ht) h

theorem CacheState.Numbered.task?_nextTask {s : CacheState} (h : s.Numbered) :
    s.task? s.nextTask = none :=
  CacheState.task?_eq_none fun hm => Nat.lt_irrefl _ (h.ids_lt _ hm)

theorem CacheState.mem_tasks_of_task? {s : CacheState} {id : Nat} {t : Task}
    (h : s.task? id = some t) : (id, t) ∈ s.tasks := by
  obtain ⟨l₁, l₂, hl, -⟩ := List.lookup_eq_some_iff.1 h
  simp [hl]

/-- Where a task stands in the table, and what stands around it when it is changed. -/
theorem CacheState.tasks_split {s : CacheState} (hn : s.ids.Nodup) {id : Nat} {t : Task}
    (h : (id, t) ∈ s.tasks) :
    ∃ l₁ l₂, s.tasks = l₁ ++ (id, t) :: l₂ ∧ s.task? id = some t
      ∧ (s.removeTask id).tasks = l₁ ++ l₂
      ∧ ∀ u, (s.setTask id u).tasks = l₁ ++ (id, u) :: l₂ := by
  obtain ⟨l₁, l₂, hl⟩ := List.append_of_mem h
  have hn : (l₁.map Prod.fst).Nodup ∧ (l₂.map Prod.fst).Nodup ∧
      (∀ entry ∈ l₁, entry.1 ≠ id) ∧ ∀ entry ∈ l₂, entry.1 ≠ id := by
    rw [ids, hl, List.map_append, List.map_cons, List.nodup_append, List.nodup_cons] at hn
    obtain ⟨h1, ⟨h2, h3⟩, h4⟩ := hn
    refine ⟨h1, h3, fun entry he => ?_, fun entry he hid => ?_⟩
    · exact h4 entry.1 (List.mem_map_of_mem he) id List.mem_cons_self
    · exact h2 (List.mem_map.2 ⟨entry, he, hid⟩)
  obtain ⟨-, -, h1, h2⟩ := hn
  have hf1 : l₁.filter (·.1 != id) = l₁ := List.filter_eq_self.2 fun e he => by simpa using h1 e he
  have hf2 : l₂.filter (·.1 != id) = l₂ := List.filter_eq_self.2 fun e he => by simpa using h2 e he
  have hs : ∀ (u : Task) (l : List (Nat × Task)), (∀ entry ∈ l, entry.1 ≠ id) →
      l.map (fun entry => if entry.1 = id then (id, u) else entry) = l := by
    intro u l hl
    refine (List.map_congr_left fun entry he => ?_).trans (List.map_id l)
    simp [hl entry he]
  refine ⟨l₁, l₂, hl, ?_, ?_, fun u => ?_⟩
  · refine List.lookup_eq_some_iff.2 ⟨l₁, l₂, hl, fun entry he => ?_⟩
    simpa using (h1 entry he).symm
  · simp only [removeTask, hl, List.filter_append, hf1]
    simp [hf2]
  · simp only [setTask, hl, List.map_append, List.map_cons, hs u l₁ h1, hs u l₂ h2]
    simp

theorem CacheState.Numbered.task?_of_mem {s : CacheState} (hn : s.Numbered) {id : Nat} {t : Task}
    (h : (id, t) ∈ s.tasks) : s.task? id = some t := by
  obtain ⟨_, _, _, ht, -⟩ := tasks_split hn.ids_nodup h
  exact ht

theorem CacheState.flights_removeTask_sublist (s : CacheState) (id : Nat) :
    (s.removeTask id).flights.Sublist s.flights :=
  (List.filter_sublist.flatMap _).append (List.Sublist.refl _)

theorem CacheState.flights_addTask (s : CacheState) (id : Nat) (t : Task) :
    (s.addTask id t).flights.Perm (s.flights ++ t.flights) := by
  simp only [flights, addTask, List.flatMap_append, List.flatMap_cons, List.flatMap_nil,
    List.append_nil, List.append_assoc]
  exact List.Perm.append_left _ List.perm_append_comm

/-- The questions of a task and those of all others. -/
theorem CacheState.flights_setTask {s : CacheState} (hn : s.ids.Nodup) {id : Nat} {t : Task}
    (h : (id, t) ∈ s.tasks) (u : Task) :
    (s.setTask id u).flights.Perm ((s.removeTask id).flights ++ u.flights)
      ∧ s.flights.Perm ((s.removeTask id).flights ++ t.flights) := by
  obtain ⟨l₁, l₂, hl, -, hr, hs⟩ := tasks_split hn h
  have key : ∀ u : Task, ((l₁ ++ (id, u) :: l₂).flatMap (·.2.flights) ++ s.background.flights).Perm
      (((l₁ ++ l₂).flatMap (·.2.flights) ++ s.background.flights) ++ u.flights) := by
    intro u
    simp only [List.flatMap_append, List.flatMap_cons, List.append_assoc]
    refine List.Perm.append_left _ ?_
    calc (u.flights ++ (l₂.flatMap (·.2.flights) ++ s.background.flights)).Perm
          ((l₂.flatMap (·.2.flights) ++ s.background.flights) ++ u.flights) :=
          List.perm_append_comm
      _ = _ := List.append_assoc _ _ _
  have hr' : (s.removeTask id).flights
      = (l₁ ++ l₂).flatMap (·.2.flights) ++ s.background.flights := by
    rw [← hr]
    rfl
  constructor
  · rw [hr']
    have hu : (s.setTask id u).flights
        = (l₁ ++ (id, u) :: l₂).flatMap (·.2.flights) ++ s.background.flights := by
      rw [← hs u]
      rfl
    rw [hu]
    exact key u
  · rw [hr', flights, hl]
    exact key t

/-! ## What becomes of the questions -/

/-- Settings and the number of the next task stay, no task is added, no token is used again, and
the questions in the air are some of those before and some that were asked for. -/
structure CacheState.Moved (s : CacheState) (r : Stepped γ) : Prop where
  settings : r.1.settings = s.settings
  cancelled : s.cancelled ⊆ r.1.cancelled
  nextTask : r.1.nextTask = s.nextTask
  ids : r.1.ids.Sublist s.ids
  nextCall : r.1.nextCall = s.nextCall + (asked r.2).length
  calls : (asked r.2).map Flight.call = List.range' s.nextCall (asked r.2).length
  flights : r.1.flights.Subperm (s.flights ++ asked r.2)

theorem asked_eq_nil {effects : List (CacheEffect γ)}
    (h : ∀ effect ∈ effects, ∀ flight, effect ≠ .resolve flight) : asked effects = [] := by
  refine List.filterMap_eq_nil_iff.2 fun effect he => ?_
  have := h effect he
  rcases effect <;> simp at this ⊢

theorem asked_map_resolve (flights : List Flight) :
    asked (flights.map CacheEffect.resolve : List (CacheEffect γ)) = flights := by
  simp only [asked, List.filterMap_map]
  exact List.filterMap_some

@[simp]
theorem asked_append (l l' : List (CacheEffect γ)) : asked (l ++ l') = asked l ++ asked l' :=
  List.filterMap_append

theorem CacheState.ids_removeTask (s : CacheState) (id : Nat) :
    (s.removeTask id).ids.Sublist s.ids :=
  List.filter_sublist.map _

theorem CacheState.ids_setTask (s : CacheState) (id : Nat) (t : Task) :
    (s.setTask id t).ids = s.ids := by
  simp only [ids, setTask, List.map_map]
  refine List.map_congr_left fun entry _ => ?_
  by_cases h : entry.1 = id <;> simp [h]

/-- A task without questions in place of another leaves the questions of the others. -/
theorem CacheState.flights_setTask_of_nil (s : CacheState) (id : Nat) {t : Task}
    (h : t.flights = []) : (s.setTask id t).flights = (s.removeTask id).flights := by
  simp only [flights, setTask, removeTask]
  congr 1
  induction s.tasks with
  | nil => rfl
  | cons entry rest ih =>
    by_cases hid : entry.1 = id
    · simp [hid, h, ih]
    · simp [hid, ih]

/-- What ends or goes on without a question: nothing but the task is changed, it waits for no
answer any more, and all that is done is done in its name. -/
structure Stepped.Drops (id : Nat) (s : CacheState) (r : Stepped γ) : Prop where
  state : r.1 = { s with tasks := r.1.tasks }
  ids : r.1.ids.Sublist s.ids
  flights : r.1.flights = (s.removeTask id).flights
  effects : ∀ effect ∈ r.2, effect.task? = some id

theorem asked_of_task {effects : List (CacheEffect γ)} {id : Nat}
    (h : ∀ effect ∈ effects, effect.task? = some id) : asked effects = [] := by
  refine asked_eq_nil fun effect he flight hf => ?_
  have := h effect he
  simp [hf, CacheEffect.task?] at this

theorem Stepped.Drops.remove (s : CacheState) (id : Nat) {effects : List (CacheEffect γ)}
    (he : ∀ effect ∈ effects, effect.task? = some id) :
    Stepped.Drops id s (s.removeTask id, effects) :=
  ⟨rfl, s.ids_removeTask id, rfl, he⟩

theorem Stepped.Drops.attemptNext (s : CacheState) (id : Nat) (request : DialRequest)
    (attempts : Attempts) :
    Stepped.Drops id s (s.attemptNext id request attempts : Stepped γ) := by
  unfold CacheState.attemptNext
  split
  · exact .remove s id (by simp [CacheEffect.task?])
  · refine ⟨rfl, ?_, s.flights_setTask_of_nil id rfl, by simp [CacheEffect.task?]⟩
    rw [CacheState.ids_setTask]

theorem Stepped.Drops.reach (s : CacheState) (id : Nat) (host : String) (goal : Goal)
    (result : Except ResolutionError (List String)) :
    Stepped.Drops id s (s.reach id host goal result : Stepped γ) := by
  unfold CacheState.reach
  split
  all_goals try exact .remove s id (by simp [CacheEffect.task?])
  rename_i request port addresses
  obtain ⟨hs, hi, hf, he⟩ := attemptNext (γ := γ) s id request
    (.begin (candidates addresses (request.order addresses.length) port))
  refine ⟨hs, hi, hf, fun effect h => ?_⟩
  rcases List.mem_cons.1 h with rfl | h
  · rfl
  · exact he effect h

theorem Stepped.Drops.moved {s : CacheState} {id : Nat} {r : Stepped γ}
    (h : Stepped.Drops id s r) : s.Moved r := by
  have ha := asked_of_task h.effects
  refine ⟨?_, ?_, ?_, h.ids, ?_, ?_, ?_⟩
  · rw [h.state]
  · rw [h.state]
    exact List.Subset.refl _
  · rw [h.state]
  · rw [h.state, ha]
    rfl
  · rw [ha]
    rfl
  · rw [ha, h.flights, List.append_nil]
    exact (s.flights_removeTask_sublist id).subperm

theorem CacheState.Moved.idle {s t : CacheState} (hs : t.settings = s.settings)
    (hk : s.cancelled ⊆ t.cancelled) (ht : t.tasks = s.tasks)
    (hb : t.background.flights.Sublist s.background.flights) (hn : t.nextTask = s.nextTask)
    (hc : t.nextCall = s.nextCall) : s.Moved ((t, []) : Stepped γ) := by
  refine ⟨hs, hk, hn, ?_, ?_, ?_, ?_⟩
  · show t.ids.Sublist s.ids
    rw [CacheState.ids, ht]
    exact List.Sublist.refl _
  · exact hc
  · rfl
  · show t.flights.Subperm (s.flights ++ [])
    rw [CacheState.flights, ht, List.append_nil]
    exact ((List.Sublist.refl _).append hb).subperm

/-- A pass that fills its window asks for what it begins. -/
theorem Pass.fill_starting (p : Pass) (now : Instant) (limit : Duration) (call : Nat) :
    (p.fill now limit call).inFlight = p.inFlight ++ p.starting now limit call
    ∧ (p.starting now limit call).map Flight.call
      = List.range' call (p.starting now limit call).length := by
  refine ⟨rfl, ?_⟩
  simp only [starting, List.map_map, List.length_map, List.length_zipIdx]
  have : Flight.call ∘ (fun x : String × Nat => Flight.start x.2 x.1 now limit) = Prod.snd := rfl
  rw [this, List.zipIdx_map_snd]

theorem CacheState.removeTask_addTask {s : CacheState} {id : Nat} (h : id ∉ s.ids) (t : Task) :
    (s.addTask id t).removeTask id = s := by
  have hf : s.tasks.filter (·.1 != id) = s.tasks := by
    refine List.filter_eq_self.2 fun entry he => ?_
    have : entry.1 ≠ id := fun h' => h (h' ▸ List.mem_map_of_mem he)
    simpa using this
  simp only [removeTask, addTask, List.filter_append, hf]
  simp

theorem CacheState.flights_removeTask_addTask {s : CacheState} {id : Nat} (h : id ∉ s.ids)
    (t : Task) : ((s.addTask id t).removeTask id).flights = s.flights := by
  rw [removeTask_addTask h]

theorem CacheState.ids_addTask (s : CacheState) (id : Nat) (t : Task) :
    (s.addTask id t).ids = s.ids ++ [id] := by
  simp [ids, addTask]

theorem CacheState.lookUp_moved {s : CacheState} {id : Nat} (h : id ∉ s.ids) (host : String)
    (goal : Goal) :
    let r : Stepped γ := s.lookUp id host goal
    r.1.settings = s.settings ∧ s.cancelled ⊆ r.1.cancelled ∧ r.1.nextTask = s.nextTask
      ∧ r.1.ids.Sublist (s.ids ++ [id])
      ∧ r.1.nextCall = s.nextCall + (asked r.2).length
      ∧ (asked r.2).map Flight.call = List.range' s.nextCall (asked r.2).length
      ∧ r.1.flights.Subperm (s.flights ++ asked r.2) := by
  unfold lookUp
  simp only []
  split
  · rename_i addresses _
    have hd := Stepped.Drops.reach (γ := γ)
      (s.addTask id (.resolving goal (Flight.start s.nextCall host s.now s.settings.lookupTimeout)))
      id host goal (.ok addresses)
    refine ⟨?_, ?_, ?_, ?_, ?_, ?_, ?_⟩
    · rw [hd.state]
      rfl
    · rw [hd.state]
      exact List.Subset.refl _
    · rw [hd.state]
      rfl
    · exact s.ids_addTask id _ ▸ hd.ids
    · rw [hd.state, asked_of_task hd.effects]
      rfl
    · rw [asked_of_task hd.effects]
      rfl
    · rw [asked_of_task hd.effects, List.append_nil, hd.flights, flights_removeTask_addTask h]
  · refine ⟨rfl, List.Subset.refl _, rfl, ?_, rfl, rfl, ?_⟩
    · exact s.ids_addTask id _ ▸ List.Sublist.refl _
    · exact (s.flights_addTask id _).subperm

theorem CacheState.keepRefresh_state (s : CacheState) (id : Nat) (p : Pass) :
    let r : Stepped γ := s.keepRefresh id p
    r.1 = { s with tasks := r.1.tasks } ∧ asked r.2 = [] := by
  unfold keepRefresh
  split
  · exact ⟨rfl, rfl⟩
  · exact ⟨rfl, rfl⟩

/-- A refresh that waits on waits for the questions of its pass, and one that ends for none. -/
theorem CacheState.keepRefresh_flights {s : CacheState} (hn : s.ids.Nodup) {id : Nat} {t : Task}
    (h : (id, t) ∈ s.tasks) (p : Pass) :
    let r : Stepped γ := s.keepRefresh id p
    r.1.ids.Sublist s.ids ∧ r.1.flights.Subperm ((s.removeTask id).flights ++ p.inFlight) := by
  unfold keepRefresh
  split
  · exact ⟨s.ids_removeTask id, (List.sublist_append_left _ _).subperm⟩
  · refine ⟨?_, (flights_setTask hn h (.refreshing p)).1.subperm⟩
    rw [ids_setTask]

/-- A pass in which a question ends asks those that it begins in place of it. -/
theorem CacheState.asked_endQuestion (s : CacheState) (p : Pass) (flight : Flight)
    (answer : Option Answer) :
    asked ((s.endQuestion p flight answer).2.2 : List (CacheEffect γ))
      = (p.finish flight (s.entries.refreshed flight.host
        (resolved flight.host s.settings.lookupTimeout answer)).2).starting s.now
          s.settings.lookupTimeout s.nextCall := by
  simp only [endQuestion, fillPass, asked_append, asked_map_resolve]
  rw [asked_eq_nil, List.nil_append]
  intro effect he f hf
  subst hf
  split at he
  · split_ifs at he <;> simp at he
  · simp at he

/-- What becomes of the questions of a pass when one of them ends. -/
theorem CacheState.endQuestion_moved (s : CacheState) (p : Pass) (flight : Flight)
    (answer : Option Answer) :
    let r : Pass × CacheState × List (CacheEffect γ) := s.endQuestion p flight answer
    r.2.1 = { s with entries := r.2.1.entries, nextCall := s.nextCall + (asked r.2.2).length }
      ∧ (asked r.2.2).map Flight.call = List.range' s.nextCall (asked r.2.2).length
      ∧ r.1.inFlight = p.inFlight.filter (·.call != flight.call) ++ asked r.2.2 := by
  simp only [s.asked_endQuestion p flight answer]
  refine ⟨rfl, (Pass.fill_starting _ _ _ _).2, rfl⟩

/-- The task, or the background task, waits for the answer. -/
def Owner.Waits (s : CacheState) : Owner → Prop
  | lookup id goal flight => (id, .resolving goal flight) ∈ s.tasks
  | refresh id pass flight => (id, .refreshing pass) ∈ s.tasks ∧ flight ∈ pass.inFlight
  | background ticker pass flight => s.background = .passing ticker pass ∧ flight ∈ pass.inFlight

theorem Pass.find?_spec {p : Pass} {call : Nat} {flight : Flight}
    (h : p.find? call = some flight) : flight ∈ p.inFlight ∧ flight.call = call :=
  ⟨List.mem_of_find?_eq_some h, by simpa using List.find?_some h⟩

theorem Task.owner?_spec {id call : Nat} {t : Task} {owner : Owner}
    (h : t.owner? id call = some owner) {s : CacheState} (ht : (id, t) ∈ s.tasks) :
    owner.Waits s ∧ owner.flight.call = call := by
  rcases t with ⟨goal, flight⟩ | ⟨request, attempts⟩ | pass
  · simp only [owner?] at h
    split_ifs at h with hc
    obtain rfl : Owner.lookup id goal flight = owner := by simpa using h
    exact ⟨ht, hc⟩
  · simp [owner?] at h
  · obtain ⟨flight, hf, rfl⟩ := Option.map_eq_some_iff.1 h
    obtain ⟨hm, hc⟩ := Pass.find?_spec hf
    exact ⟨⟨ht, hm⟩, hc⟩

theorem CacheState.owner?_spec {s : CacheState} {call : Nat} {owner : Owner}
    (h : s.owner? call = some owner) : owner.Waits s ∧ owner.flight.call = call := by
  simp only [owner?] at h
  split at h
  · rename_i owner' ho
    obtain ⟨entry, hm, he⟩ := List.exists_of_findSome?_eq_some ho
    obtain rfl : owner' = owner := by simpa using h
    exact Task.owner?_spec he hm
  · simp only [Background.owner?] at h
    split at h
    · rename_i ticker pass hb
      obtain ⟨flight, hf, rfl⟩ := Option.map_eq_some_iff.1 h
      obtain ⟨hm, hc⟩ := Pass.find?_spec hf
      exact ⟨⟨hb, hm⟩, hc⟩
    · simp at h

theorem Task.flight_of_owner? {id call : Nat} {t : Task} {owner : Owner}
    (h : t.owner? id call = some owner) : owner.flight ∈ t.flights ∧ owner.flight.call = call := by
  rcases t with ⟨goal, flight⟩ | ⟨request, attempts⟩ | pass
  · simp only [owner?] at h
    split_ifs at h with hc
    obtain rfl : Owner.lookup id goal flight = owner := by simpa using h
    exact ⟨List.mem_singleton.2 rfl, hc⟩
  · simp [owner?] at h
  · obtain ⟨flight, hf, rfl⟩ := Option.map_eq_some_iff.1 h
    exact Pass.find?_spec hf

/-- A task that waits for an answer is the one that gets it: no other waits for the same. -/
theorem CacheState.Numbered.owner?_of_task {s : CacheState} (hn : s.Numbered) {id call : Nat}
    {t : Task} {owner : Owner} (ht : (id, t) ∈ s.tasks) (ho : t.owner? id call = some owner) :
    s.owner? call = some owner := by
  obtain ⟨l₁, l₂, hl⟩ := List.append_of_mem ht
  obtain ⟨hf, hc⟩ := Task.flight_of_owner? ho
  have hfirst : l₁.findSome? (fun entry => entry.2.owner? entry.1 call) = none := by
    rw [List.findSome?_eq_none_iff]
    intro entry he
    rcases hother : entry.2.owner? entry.1 call with _ | other
    · rfl
    obtain ⟨hf', hc'⟩ := Task.flight_of_owner? hother
    have hd := hn.calls_nodup
    simp only [flights, hl, List.flatMap_append, List.flatMap_cons, List.map_append,
      List.append_assoc] at hd
    refine absurd (hc'.trans hc.symm) ((List.nodup_append.1 hd).2.2 _ ?_ _ ?_)
    · exact List.mem_map_of_mem (List.mem_flatMap.2 ⟨entry, he, hf'⟩)
    · exact List.mem_append_left _ (List.mem_map_of_mem hf)
  simp only [owner?, hl, List.findSome?_append, hfirst, Option.none_or, List.findSome?_cons, ho]

theorem Pass.find?_of_mem {p : Pass} (hn : (p.inFlight.map Flight.call).Nodup) {flight : Flight}
    (h : flight ∈ p.inFlight) : p.find? flight.call = some flight := by
  rcases hf : p.find? flight.call with _ | other
  · have := List.find?_eq_none.1 hf flight h
    simp at this
  · obtain ⟨hm, hc⟩ := Pass.find?_spec hf
    rw [List.inj_on_of_nodup_map hn hm h hc]

theorem CacheState.Numbered.calls_nodup_of_task {s : CacheState} (hn : s.Numbered) {id : Nat}
    {t : Task} (ht : (id, t) ∈ s.tasks) : (t.flights.map Flight.call).Nodup := by
  have hp := (flights_setTask hn.ids_nodup ht t).2.map Flight.call
  have hd := hp.nodup_iff.1 hn.calls_nodup
  rw [List.map_append] at hd
  exact (List.nodup_append.1 hd).2.1

theorem Owner.Waits.flight_mem {s : CacheState} {owner : Owner} (h : owner.Waits s) :
    owner.flight ∈ s.flights := by
  rcases owner with ⟨id, goal, flight⟩ | ⟨id, pass, flight⟩ | ⟨ticker, pass, flight⟩
  · exact List.mem_append_left _
      (List.mem_flatMap.2 ⟨_, h, List.mem_singleton.2 rfl⟩)
  · exact List.mem_append_left _ (List.mem_flatMap.2 ⟨_, h.1, h.2⟩)
  · refine List.mem_append_right _ ?_
    rw [h.1]
    exact h.2

theorem CacheState.waits_of_ended {s : CacheState} {e : CacheEvent γ} {owner : Owner}
    {answer : Option Answer} (h : s.ended? e = some (owner, answer)) : owner.Waits s := by
  obtain ⟨call, given, cancels, rfl⟩ := answer_of_ended h
  exact (owner?_spec (owner_of_ended h).1).1

/-- A task that waits for the answer to a question looks a host up or refreshes. -/
theorem Owner.Waits.task? {s : CacheState} (hn : s.Numbered) {owner : Owner} (hw : owner.Waits s)
    {id : Nat} (hid : owner.id? = some id) :
    (∃ goal flight, owner = .lookup id goal flight ∧ s.task? id = some (.resolving goal flight))
    ∨ ∃ pass flight, owner = .refresh id pass flight ∧ s.task? id = some (.refreshing pass) := by
  rcases owner with ⟨id', goal, flight⟩ | ⟨id', pass, flight⟩ | ⟨ticker, pass, flight⟩
  · obtain rfl : id' = id := Option.some.inj hid
    exact .inl ⟨goal, flight, rfl, hn.task?_of_mem hw⟩
  · obtain rfl : id' = id := Option.some.inj hid
    exact .inr ⟨pass, flight, rfl, hn.task?_of_mem hw.1⟩
  · simp [id?] at hid

/-- A task sees nothing of a step that neither ends one of its questions nor brings the outcome of
its attempt, and does not find it cancelled. -/
theorem CacheState.step_beside {s : CacheState} (hn : s.Numbered) {id : Nat}
    (hlt : id < s.nextTask) {e : CacheEvent γ} (habort : e ≠ .abort id)
    (houtcome : ∀ request attempts, s.task? id = some (.attempting request attempts) →
      ∀ outcome cancels, e ≠ .outcome id outcome cancels)
    (hcancelled : ∀ goal flight, s.task? id = some (.resolving goal flight) →
      goal.cancelled? s = none)
    (hended : ∀ owner answer, s.ended? e = some (owner, answer) → owner.id? ≠ some id) :
    (s.step e).1.task? id = s.task? id ∧ (∀ effect ∈ (s.step e).2, effect.task? ≠ some id)
      ∧ (s.subject? e = some id → asked (s.step e).2 = []) := by
  by_cases hs : s.subject? e = some id
  case neg =>
    have ho := s.step_only e
    exact ⟨ho.task? id hs, fun effect hm hid => hs (ho.effects effect hm id hid),
      fun h => absurd h hs⟩
  rcases e with request | ⟨call, answer, cancels⟩ | ⟨task, outcome, cancels⟩ | token | task
    | _ | _ | _ | hosts | nanos
  case start =>
    simp only [subject?, Option.some.injEq] at hs
    omega
  case answer =>
    obtain ⟨owner, ho, hid⟩ := Option.bind_eq_some_iff.1 hs
    rcases s.answer_cases (γ := γ) call answer cancels with ⟨owner', a, _, hend, ho', -⟩
      | ⟨cancelled, -, -, h⟩ | ⟨id', goal, flight, error, -, ho', hc, -⟩
    · obtain rfl : owner = owner' := Option.some.inj (ho.symm.trans ho')
      exact absurd hid (hended owner a hend)
    · rw [h]
      exact ⟨rfl, by simp, fun _ => rfl⟩
    · obtain rfl : owner = .lookup id' goal flight := Option.some.inj (ho.symm.trans ho')
      obtain rfl : id' = id := Option.some.inj hid
      have := hcancelled goal flight (hn.task?_of_mem (owner?_spec ho).1)
      simp [this] at hc
  case outcome =>
    obtain rfl : task = id := Option.some.inj hs
    have hstep : s.step (.outcome task outcome cancels) = (s, []) := by
      simp only [step, takeOutcome]
      split
      · rename_i request attempts ht
        exact absurd rfl (houtcome request attempts ht outcome cancels)
      · rfl
    rw [hstep]
    exact ⟨rfl, by simp, fun _ => rfl⟩
  case abort =>
    obtain rfl : task = id := Option.some.inj hs
    exact absurd rfl habort
  all_goals simp [subject?] at hs

theorem CacheState.conclude_moved {s : CacheState} (hn : s.ids.Nodup) {owner : Owner}
    (h : owner.Waits s) (answer : Option Answer) :
    s.Moved (s.conclude answer owner : Stepped γ) := by
  rcases owner with ⟨id, goal, flight⟩ | ⟨id, pass, flight⟩ | ⟨ticker, pass, flight⟩
  · simp only [conclude, endLookup]
    split
    · rename_i addresses _
      have hm := (Stepped.Drops.reach (γ := γ)
        { s with entries := s.entries.insert flight.host addresses } id flight.host goal
        (.ok addresses)).moved
      exact ⟨hm.settings, hm.cancelled, hm.nextTask, hm.ids, hm.nextCall, hm.calls, hm.flights⟩
    · exact (Stepped.Drops.reach s id flight.host goal _).moved
  · obtain ⟨hs, hc, hf⟩ := s.endQuestion_moved (γ := γ) pass flight answer
    simp only [conclude]
    rcases hq : (s.endQuestion pass flight answer : Pass × CacheState × List (CacheEffect γ))
      with ⟨p, s', effects⟩
    rw [hq] at hs hc hf
    simp only [] at hs hc hf ⊢
    have hids : s'.ids = s.ids := by rw [hs]; rfl
    have ht : (id, Task.refreshing pass) ∈ s'.tasks := by rw [hs]; exact h.1
    obtain ⟨hk, ha⟩ := s'.keepRefresh_state (γ := γ) id p
    obtain ⟨hi, hfl⟩ := keepRefresh_flights (γ := γ) (hids ▸ hn) ht p
    have hp : p.inFlight.Subperm (pass.inFlight ++ asked effects) := by
      rw [hf]
      exact (List.filter_sublist.append (List.Sublist.refl _)).subperm
    have hrest : s.flights.Perm ((s'.removeTask id).flights ++ pass.inFlight) := by
      have : s'.flights = s.flights := by rw [hs]; rfl
      rw [← this]
      exact (flights_setTask (hids ▸ hn) ht (.refreshing p)).2
    have hcall : s'.nextCall = s.nextCall + (asked effects).length := by rw [hs]
    have hcancelled : s.cancelled ⊆ (s'.keepRefresh id p : Stepped γ).1.cancelled := by
      rw [hk, hs]
      exact List.Subset.refl _
    refine ⟨by rw [hk, hs], hcancelled, by rw [hk, hs], hids ▸ hi, ?_, ?_, ?_⟩
    · rw [asked_append, ha, List.append_nil, hk, ← hcall]
    · rw [asked_append, ha, List.append_nil]
      exact hc
    · rw [asked_append, ha, List.append_nil]
      refine hfl.trans (((List.subperm_append_left _).2 hp).trans ?_)
      rw [← List.append_assoc]
      exact (List.subperm_append_right _).2 hrest.symm.subperm
  · obtain ⟨hs, hc, hf⟩ := s.endQuestion_moved (γ := γ) pass flight answer
    simp only [conclude]
    rcases hq : (s.endQuestion pass flight answer : Pass × CacheState × List (CacheEffect γ))
      with ⟨p, s', effects⟩
    rw [hq] at hs hc hf
    simp only [] at hs hc hf ⊢
    refine ⟨by rw [hs]; rfl, ?_, by rw [hs]; rfl, ?_, by rw [hs]; rfl, hc, ?_⟩
    · rw [hs]
      exact List.Subset.refl _
    · rw [hs]
      exact List.Sublist.refl _
    · have ht : s'.tasks = s.tasks := by rw [hs]
      have hp : (if p.isDone = true then Background.waiting ticker
          else .passing ticker p).flights.Sublist (pass.inFlight ++ asked effects) := by
        split
        · exact List.nil_sublist _
        · rw [Background.flights, hf]
          exact List.filter_sublist.append (List.Sublist.refl _)
      simp only [flights, keepBackground, ht, h.1, List.append_assoc]
      exact ((List.Sublist.refl _).append hp).subperm

/-! ## What a step does to the numbers -/

/-- Numbers of tasks and questions count up, tokens are used up, and the questions in the air are
some of those before and some that the step asks. -/
structure CacheState.Counted (s : CacheState) (r : Stepped γ) : Prop where
  settings : r.1.settings = s.settings
  cancelled : s.cancelled ⊆ r.1.cancelled
  tasks : ∃ started, r.1.nextTask = s.nextTask + started
    ∧ r.1.ids.Sublist (s.ids ++ List.range' s.nextTask started)
  nextCall : r.1.nextCall = s.nextCall + (asked r.2).length
  calls : (asked r.2).map Flight.call = List.range' s.nextCall (asked r.2).length
  flights : r.1.flights.Subperm (s.flights ++ asked r.2)

theorem CacheState.Moved.counted {s : CacheState} {r : Stepped γ} (h : s.Moved r) :
    s.Counted r :=
  ⟨h.settings, h.cancelled, ⟨0, h.nextTask, h.ids.trans (List.sublist_append_left _ _)⟩, h.nextCall,
    h.calls, h.flights⟩

theorem CacheState.Moved.of_cancelled {s : CacheState} {cancelled : List Token}
    (hk : s.cancelled ⊆ cancelled) {r : Stepped γ}
    (h : ({ s with cancelled := cancelled } : CacheState).Moved r) : s.Moved r :=
  ⟨h.settings, List.Subset.trans hk h.cancelled, h.nextTask, h.ids, h.nextCall, h.calls, h.flights⟩

/-- The questions that a refresh begins with. -/
def CacheState.firstAsked (s : CacheState) (hosts : List String) : List Flight :=
  (Pass.over (s.passHosts hosts)).starting s.now s.settings.lookupTimeout s.nextCall

/-- The pass that a refresh begins with, its window filled. -/
def CacheState.firstPass (s : CacheState) (hosts : List String) : Pass :=
  (Pass.over (s.passHosts hosts)).fill s.now s.settings.lookupTimeout s.nextCall

/-- The cache with a refresh that has asked its first questions. -/
def CacheState.refreshing (s : CacheState) (hosts : List String) : CacheState :=
  { { s with nextTask := s.nextTask + 1 }.addTask s.nextTask
      (.refreshing (Pass.over (s.passHosts hosts))) with
    nextCall := s.nextCall + (s.firstAsked hosts).length }

theorem CacheState.start_refresh (s : CacheState) (hosts : List String) :
    (s.start (.refresh hosts) : Stepped γ)
      = (((s.refreshing hosts).keepRefresh s.nextTask (s.firstPass hosts) : Stepped γ).1,
        (s.firstAsked hosts).map .resolve
          ++ ((s.refreshing hosts).keepRefresh s.nextTask (s.firstPass hosts)).2) := rfl

theorem CacheState.start_counted {s : CacheState} (hn : s.ids.Nodup) (hf : s.nextTask ∉ s.ids)
    (request : Request) : s.Counted (s.start request : Stepped γ) := by
  rcases s.start_cases (γ := γ) request with ⟨host, goal, -, h⟩ | ⟨hosts, rfl⟩ | ⟨error, -, h⟩
  · rw [h]
    obtain ⟨h1, hk, h2, h3, h4, h5, h6⟩ := lookUp_moved (γ := γ)
      (s := { s with nextTask := s.nextTask + 1 }) hf host goal
    exact ⟨h1, hk, ⟨1, h2, h3⟩, h4, h5, h6⟩
  · have hids : (s.refreshing hosts).ids = s.ids ++ [s.nextTask] := ids_addTask _ _ _
    have hnew : (s.refreshing hosts).ids.Nodup := by
      rw [hids]
      refine List.nodup_append.2 ⟨hn, by simp, fun a ha b hb hab => ?_⟩
      rw [List.mem_singleton.1 hb] at hab
      exact hf (hab ▸ ha)
    have ht : (s.nextTask, Task.refreshing (Pass.over (s.passHosts hosts)))
        ∈ (s.refreshing hosts).tasks := List.mem_append_right _ List.mem_cons_self
    have hothers : ((s.refreshing hosts).removeTask s.nextTask).flights = s.flights :=
      flights_removeTask_addTask (s := { s with nextTask := s.nextTask + 1 }) hf _
    obtain ⟨hk, ha⟩ :=
      (s.refreshing hosts).keepRefresh_state (γ := γ) s.nextTask (s.firstPass hosts)
    obtain ⟨hi, hfl⟩ := keepRefresh_flights (γ := γ) hnew ht (s.firstPass hosts)
    have hasked : asked (s.start (.refresh hosts) : Stepped γ).2 = s.firstAsked hosts := by
      rw [start_refresh, asked_append, asked_map_resolve, ha, List.append_nil]
    rw [hids] at hi
    rw [hothers] at hfl
    refine ⟨?_, ?_, ⟨1, ?_, hi⟩, ?_, ?_, ?_⟩
    · rw [start_refresh, hk]
      rfl
    · rw [start_refresh, hk]
      exact List.Subset.refl _
    · rw [start_refresh, hk]
      rfl
    · rw [hasked, start_refresh, hk]
      rfl
    · rw [hasked]
      exact (Pass.fill_starting _ _ _ _).2
    · rw [hasked]
      exact hfl
  · rw [h]
    refine ⟨rfl, List.Subset.refl _, ⟨1, rfl, List.sublist_append_left _ _⟩, rfl, rfl, ?_⟩
    exact (List.sublist_append_left _ _).subperm

theorem CacheState.takeTick_moved (s : CacheState) (hosts : List String) :
    s.Moved (s.takeTick hosts : Stepped γ) := by
  unfold takeTick
  split
  · rename_i ticker hb
    split_ifs
    · exact .idle rfl (List.Subset.refl _) rfl (List.Sublist.refl _) rfl rfl
    · exact .idle (t := { s with background := .ended }) rfl (List.Subset.refl _) rfl
        (List.nil_sublist _) rfl rfl
    · set p := Pass.over (s.passHosts hosts)
      have hp := Pass.fill_starting p s.now s.settings.lookupTimeout s.nextCall
      simp only [fillPass]
      refine ⟨rfl, List.Subset.refl _, rfl, List.Sublist.refl _, ?_, ?_, ?_⟩
      · rw [asked_map_resolve]
        rfl
      · rw [asked_map_resolve]
        exact hp.2
      · rw [asked_map_resolve]
        simp only [flights, keepBackground, hb, Background.flights, List.append_nil]
        refine (List.subperm_append_left _).2 ?_
        by_cases hd : (p.fill s.now s.settings.lookupTimeout s.nextCall).isDone
        · rw [if_pos hd]
          exact List.nil_subperm
        · rw [if_neg hd]
          exact List.Subperm.refl _
  · exact .idle rfl (List.Subset.refl _) rfl (List.Sublist.refl _) rfl rfl

theorem CacheState.step_counted {s : CacheState} (h : s.Numbered) (e : CacheEvent γ) :
    s.Counted (s.step e) := by
  rcases e with request | ⟨call, answer, cancels⟩ | ⟨task, outcome, cancels⟩ | token | task
    | _ | _ | _ | hosts | nanos
  · exact start_counted h.ids_nodup (fun hm => Nat.lt_irrefl _ (h.ids_lt _ hm)) request
  · rcases s.answer_cases (γ := γ) call answer cancels with ⟨owner, a, cancelled, -, ho, hk, hs⟩
      | ⟨cancelled, -, hk, hs⟩ | ⟨id, goal, flight, error, -, -, -, hs⟩
    · rw [hs]
      have hw : owner.Waits { s with cancelled := cancelled } := (owner?_spec ho).1
      refine (Moved.of_cancelled hk (conclude_moved ?_ hw a)).counted
      exact h.ids_nodup
    · rw [hs]
      refine Moved.counted ?_
      exact .idle rfl hk rfl (List.Sublist.refl _) rfl rfl
    · rw [hs]
      exact (Stepped.Drops.remove s id (by simp [CacheEffect.task?])).moved.counted
  · obtain ⟨cancelled, hk, hs | ⟨result, hs⟩ | ⟨request, attempts, hs⟩⟩ :=
      s.outcome_cases task outcome cancels
    · rw [hs]
      refine Moved.counted ?_
      exact .idle rfl hk rfl (List.Sublist.refl _) rfl rfl
    · rw [hs]
      refine (Moved.of_cancelled hk ?_).counted
      exact (Stepped.Drops.remove _ task (by simp [CacheEffect.task?])).moved
    · rw [hs]
      refine (Moved.of_cancelled hk ?_).counted
      exact (Stepped.Drops.attemptNext _ task request attempts).moved
  · refine Moved.counted ?_
    exact .idle rfl (List.subset_cons_self _ _) rfl (List.Sublist.refl _) rfl rfl
  · exact (Stepped.Drops.remove s task (by simp)).moved.counted
  · refine Moved.counted ?_
    exact .idle rfl (List.Subset.refl _) rfl (List.Sublist.refl _) rfl rfl
  · refine Moved.counted ?_
    exact .idle (t := { s with isStopped := true, background := .ended }) rfl (List.Subset.refl _)
      rfl (List.nil_sublist _) rfl rfl
  · refine Moved.counted ?_
    exact .idle rfl (List.Subset.refl _) rfl (List.Sublist.refl _) rfl rfl
  · exact (s.takeTick_moved hosts).counted
  · refine Moved.counted ?_
    exact .idle rfl (List.Subset.refl _) rfl (List.Sublist.refl _) rfl rfl

theorem CacheState.Numbered.step {s : CacheState} (h : s.Numbered) (e : CacheEvent γ) :
    (s.step e).1.Numbered := by
  have hc := CacheState.step_counted h e
  obtain ⟨started, hnext, hids⟩ := hc.tasks
  have hmem : ∀ flight ∈ (s.step e).1.flights, flight.call < s.nextCall
      ∨ s.nextCall ≤ flight.call ∧ flight.call < s.nextCall + (asked (s.step e).2).length := by
    intro flight hf
    rcases List.mem_append.1 (hc.flights.subset hf) with hf | hf
    · exact .inl (h.calls_lt flight hf)
    · have : flight.call ∈ (asked (s.step e).2).map Flight.call := List.mem_map_of_mem hf
      rw [hc.calls, List.mem_range'_1] at this
      exact .inr this
  refine ⟨?_, ?_, ?_, ?_⟩
  · refine hids.nodup (List.nodup_append.2 ⟨h.ids_nodup, List.nodup_range', ?_⟩)
    intro a ha b hb
    have := h.ids_lt a ha
    rw [List.mem_range'_1] at hb
    omega
  · intro id hid
    rw [hnext]
    rcases List.mem_append.1 (hids.subset hid) with hid | hid
    · have := h.ids_lt id hid
      omega
    · rw [List.mem_range'_1] at hid
      omega
  · obtain ⟨l, hp, hs⟩ := hc.flights
    refine (hp.map Flight.call).nodup_iff.1 ((hs.map Flight.call).nodup ?_)
    rw [List.map_append, hc.calls]
    refine List.nodup_append.2 ⟨h.calls_nodup, List.nodup_range', ?_⟩
    intro a ha b hb
    obtain ⟨flight, hf, rfl⟩ := List.mem_map.1 ha
    have := h.calls_lt flight hf
    rw [List.mem_range'_1] at hb
    omega
  · intro flight hf
    rw [hc.nextCall]
    have := hmem flight hf
    omega

theorem CacheState.flights_fresh (settings : Settings) (now : Instant) :
    (CacheState.fresh settings now).flights = [] := by
  unfold flights fresh
  generalize Ticker.start? now settings.refreshInterval = ticker
  cases ticker <;> rfl

theorem CacheState.numbered_fresh (settings : Settings) (now : Instant) :
    (CacheState.fresh settings now).Numbered := by
  have hf := flights_fresh settings now
  exact ⟨List.nodup_nil, by simp [ids, fresh], by simp [hf], by simp [hf]⟩

theorem CacheState.Reachable.numbered {s : CacheState} (h : s.Reachable γ) : s.Numbered :=
  h.invariant Numbered numbered_fresh fun _ e h => h.step e

theorem CacheState.Numbered.nextTask_after {s : CacheState} (h : s.Numbered) :
    ∀ es : List (CacheEvent γ), s.nextTask ≤ (s.after es).nextTask := by
  intro es
  induction es generalizing s with
  | nil => exact Nat.le_refl _
  | cons e es ih =>
    obtain ⟨started, hnext, -⟩ := (CacheState.step_counted h e).tasks
    exact Nat.le_trans (by omega) (ih (h.step e))

theorem CacheState.Numbered.settings_after {s : CacheState} (h : s.Numbered) :
    ∀ es : List (CacheEvent γ), (s.after es).settings = s.settings := by
  intro es
  induction es generalizing s with
  | nil => rfl
  | cons e es ih => exact (ih (h.step e)).trans (CacheState.step_counted h e).settings

/-- A token that is cancelled stays so. -/
theorem CacheState.Numbered.cancelled_after {s : CacheState} (h : s.Numbered) :
    ∀ es : List (CacheEvent γ), s.cancelled ⊆ (s.after es).cancelled := by
  intro es
  induction es generalizing s with
  | nil => exact List.Subset.refl _
  | cons e es ih => exact List.Subset.trans (CacheState.step_counted h e).cancelled (ih (h.step e))

theorem CacheState.Numbered.after {s : CacheState} (h : s.Numbered) :
    ∀ es : List (CacheEvent γ), (s.after es).Numbered := by
  intro es
  induction es generalizing s with
  | nil => exact h
  | cons e es ih => exact ih (h.step e)

end HostDialing

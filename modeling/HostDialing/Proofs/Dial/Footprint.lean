import HostDialing.Proofs.Cache.Spared

/-!
# What a dial does to the cache

A dial touches the entries in one step only, the one in which its lookup comes to a list, and asks
the resolver at most once. Before that step it waits for its lookup and calls no connector
(`CacheState.AwaitsLookup`), so that a dial without a target, one that is cut off and one whose
lookup fails leave no trace; after it the entries are those that a lookup of the same host would
leave (`CacheState.dial_footprint`).
-/

namespace HostDialing

variable {γ : Type}

/-- The token is cancelled at a moment of the run before which the lookup has come to no list. -/
def CacheState.CutOff (s : CacheState) (id : Nat) (token : Token) (run : List (CacheEvent γ)) :
    Prop :=
  ∃ before after, run = before ++ after ∧ ¬ s.Finds id before
    ∧ token ∈ (s.after before).cancelled

/-- The lookup of the task comes to an error in the run. -/
def CacheState.LookupFails (s : CacheState) (id : Nat) (run : List (CacheEvent γ)) : Prop :=
  ∃ before e after host error, run = before ++ e :: after
    ∧ (s.after before).lookedUp? e = some (id, host, .error error)

/-- The task waits for a lookup, if it waits for anything. -/
def CacheState.AwaitsLookup (s : CacheState) (id : Nat) : Prop :=
  ∀ t, s.task? id = some t → ∃ goal flight, t = .resolving goal flight

theorem CacheState.AwaitsLookup.of_gone {s : CacheState} {id : Nat} (h : s.task? id = none) :
    s.AwaitsLookup id := by
  intro t ht
  simp [h] at ht

theorem CacheState.AwaitsLookup.looksUp {s : CacheState} {id : Nat} (h : s.AwaitsLookup id) :
    s.LooksUp id := by
  intro pass ht
  obtain ⟨_, _, ht'⟩ := h _ ht
  simp at ht'

/-- A task that has found no list goes on to no attempt. -/
theorem CacheState.AwaitsLookup.step {s : CacheState} (hn : s.Numbered) {id : Nat}
    (hlt : id < s.nextTask) (h : s.AwaitsLookup id) {e : CacheEvent γ}
    (hfinds : ∀ host addresses, s.lookedUp? e ≠ some (id, host, .ok addresses)) :
    (s.step e).1.AwaitsLookup id ∧ connectsOf id (s.step e).2 = [] := by
  by_cases hs : s.subject? e = some id
  swap
  · have ho := s.step_only e
    refine ⟨fun t ht => h t (ho.task? id hs ▸ ht), (connectsOf_eq_nil fun effect hm hid => ?_).1⟩
    exact hs (ho.effects effect hm id hid)
  cases h.looksUp.ownStep hn hlt hs with
  | waits _ step =>
    rw [step]
    exact ⟨h, rfl⟩
  | ends _ effects step own =>
    rw [step]
    refine ⟨.of_gone (task?_removeTask_self _ id), List.filterMap_eq_nil_iff.2 fun effect hm => ?_⟩
    obtain ⟨result, rfl⟩ := own effect hm
    rfl
  | finds _ _ lookup => exact absurd lookup (hfinds _ _)
  | attempts _ task =>
    obtain ⟨_, _, ht⟩ := task
    obtain ⟨_, _, ht'⟩ := h _ ht
    simp at ht'

theorem CacheState.AwaitsLookup.connects {id : Nat} (es : List (CacheEvent γ)) :
    ∀ {s : CacheState}, s.Numbered → id < s.nextTask → s.AwaitsLookup id → ¬ s.Finds id es →
      connectsOf id (s.effects es) = [] := by
  induction es with
  | nil => exact fun _ _ _ _ => rfl
  | cons e es ih =>
    intro s hn hlt h hfinds
    obtain ⟨hnext, hnone⟩ := h.step hn hlt fun host addresses hl =>
      hfinds (.inl ⟨host, addresses, hl⟩)
    rw [effects, connectsOf_append, hnone, List.nil_append]
    exact ih (hn.step e) (Nat.lt_of_lt_of_le hlt (hn.nextTask_after [e])) hnext
      fun hf => hfinds (.inr hf)

section dial

variable {s : CacheState} (hn : s.Numbered) {request : DialRequest}

include hn

theorem CacheState.AwaitsLookup.start
    (hfinds : ∀ host addresses, s.lookedUp? (.start (.dial request) : CacheEvent γ)
      ≠ some (s.nextTask, host, .ok addresses)) :
    let r : Stepped γ := s.step (.start (.dial request))
    r.1.AwaitsLookup s.nextTask ∧ connectsOf s.nextTask r.2 = [] := by
  intro r
  rcases s.start_cases (γ := γ) (.dial request) with ⟨host, goal, hs, h⟩ | ⟨hosts, h⟩
    | ⟨error, -, h⟩
  · rcases hk : s.entries.known? host with _ | addresses
    · simp only [r, CacheState.step, h, lookUp, hk]
      refine ⟨fun t ht => ?_, rfl⟩
      have hadd := task?_addTask_self (s := { s with nextTask := s.nextTask + 1 })
        (.resolving goal (Flight.start s.nextCall host s.now s.settings.lookupTimeout))
        hn.task?_nextTask
      exact ⟨goal, _, (Option.some.inj (hadd.symm.trans ht)).symm⟩
    · exact absurd (lookUp_known hk hs).1 (hfinds host addresses)
  · simp at h
  · simp only [r, CacheState.step, h]
    exact ⟨.of_gone hn.task?_nextTask, rfl⟩

/-- A dial that has found no list has called no connector. -/
theorem CacheState.connects_of_not_finds {es : List (CacheEvent γ)}
    (hfinds : ¬ s.Finds s.nextTask (.start (.dial request) :: es)) :
    connectsOf s.nextTask (s.effects (.start (.dial request) :: es)) = [] := by
  obtain ⟨hwaits, hnone⟩ := AwaitsLookup.start (γ := γ) hn fun host addresses hl =>
    hfinds (.inl ⟨host, addresses, hl⟩)
  rw [effects, connectsOf_append, hnone, List.nil_append]
  exact hwaits.connects es (hn.step _) (lt_nextTask_of_start hn (by simp))
    fun hf => hfinds (.inr hf)

theorem CacheState.not_finds_of_unparsed {error : DialError}
    (hparse : Target.parse request.addr = .error error) (es : List (CacheEvent γ)) :
    ¬ s.Finds s.nextTask (.start (.dial request) :: es) := by
  have hstep := s.step_start_unparsed (γ := γ) hparse
  have hgone : (s.step (.start (.dial request) : CacheEvent γ)).1.task? s.nextTask = none := by
    rw [hstep]
    exact hn.task?_nextTask
  rintro (⟨host, addresses, hl⟩ | hf)
  · simp [lookedUp?, sought?, hparse] at hl
  · exact not_finds_of_not_resolving (hn.step _) (lt_nextTask_of_start hn (by simp))
      (by simp [hgone]) es hf

/-- A dial looks at its token before it takes the answer to its lookup. -/
theorem CacheState.not_finds_of_cutOff {target : Target}
    (hparse : Target.parse request.addr = .ok target) {es : List (CacheEvent γ)}
    (h : s.CutOff s.nextTask request.token (.start (.dial request) :: es)) :
    ¬ s.Finds s.nextTask (.start (.dial request) :: es) := by
  obtain ⟨before, after, hrun, hfinds, hc⟩ := h
  rw [hrun, finds_append]
  rintro (hf | hf)
  · exact hfinds hf
  · obtain ⟨between, e, rest, host, addresses, rfl, hl⟩ := finds_iff.1 hf
    have hsplit : .start (.dial request) :: es = (before ++ between) ++ e :: rest := by
      simpa using hrun
    have hdialing := hn.dialing hparse hsplit
    rw [← after_append] at hl
    refine hdialing.not_cancelled_of_lookedUp (hn.after _) hl ?_
    rw [after_append]
    exact (hn.after before).cancelled_after between hc

end dial

/-- All steps of a dial but the one in which it comes by its list leave the entries as they are. -/
theorem CacheState.Numbered.dial_entries {s : CacheState} (hn : s.Numbered) {request : DialRequest}
    {es before after : List (CacheEvent γ)} {e : CacheEvent γ}
    (hrun : .start (.dial request) :: es = before ++ e :: after)
    (hs : (s.after before).subject? e = some s.nextTask)
    (hfinds : ∀ host addresses,
      (s.after before).lookedUp? e ≠ some (s.nextTask, host, .ok addresses)) :
    ((s.after before).step e).1.entries = (s.after before).entries := by
  rcases before with _ | ⟨first, before⟩
  · obtain ⟨rfl, -⟩ := List.cons.inj hrun
    exact s.start_entries (.dial request)
  · obtain ⟨rfl, -⟩ := List.cons.inj hrun
    have hn' := hn.step (.start (.dial request) : CacheEvent γ)
    have hlt : s.nextTask < (s.step (.start (.dial request) : CacheEvent γ)).1.nextTask :=
      CacheState.lt_nextTask_of_start hn (by simp)
    have hlooks := CacheState.LooksUp.after before hn' hlt (.start hn (by simp))
    have hown := hlooks.ownStep (hn'.after before)
      (Nat.lt_of_lt_of_le hlt (hn'.nextTask_after before)) hs
    exact hown.entries hfinds

/-- A dial asks at most once, and never for a host that is known. -/
theorem CacheState.asked_of_dial (s : CacheState) (request : DialRequest) :
    let asks : List Flight := asked (s.step (.start (.dial request) : CacheEvent γ)).2
    asks.length ≤ 1
      ∧ (asks = [] ∨ ∃ target, Target.parse request.addr = .ok target
        ∧ s.entries.known? target.host = none) := by
  intro asks
  rcases s.start_cases (γ := γ) (.dial request) with ⟨host, goal, hs, h⟩ | ⟨hosts, h⟩
    | ⟨error, -, h⟩
  · rcases hk : s.entries.known? host with _ | addresses
    · have hasks : asks = [.start s.nextCall host s.now s.settings.lookupTimeout] := by
        simp only [asks, step, h, lookUp, hk]
        rfl
      refine ⟨by simp [hasks], .inr ?_⟩
      simp only [sought?] at hs
      split at hs
      · simp at hs
      · rename_i target hparse
        split_ifs at hs
        obtain ⟨rfl, -⟩ := Prod.mk.inj (Option.some.inj hs)
        exact ⟨target, hparse, hk⟩
    · have hasks : asks = [] := (lookUp_known hk hs).2
      exact ⟨by simp [hasks], .inl hasks⟩
  · simp at h
  · have hasks : asks = [] := by
      simp only [asks, step, h]
      rfl
    exact ⟨by simp [hasks], .inl hasks⟩

/-- What a dial leaves in the cache, whatever its order, its outcomes and its token, and whatever
else happens beside it. If its address is no target, its token is cancelled before its lookup has
come to a list, or its lookup fails, it has called no connector and the run leads to the entries
that the run without it leads to. If its token is not cancelled when it starts, they are those that
a lookup of its host leads to in its place. It asks the resolver at most once, and not at all for a
known host or an address that is no target. -/
theorem CacheState.dial_footprint (settings : Settings) (now : Instant)
    (history es : List (CacheEvent γ)) (request : DialRequest) :
    let s := (CacheState.fresh settings now).after history
    let id := s.nextTask
    let run : List (CacheEvent γ) := .start (.dial request) :: es
    let started := (s.step (.start (.dial request) : CacheEvent γ)).1
    ((∃ error, Target.parse request.addr = .error error) ∨ s.CutOff id request.token run
        ∨ s.LookupFails id run →
      let rest := started.remaining id false es
      connectsOf id (s.effects run) = []
      ∧ (s.after run).entries = ((s.spared started).after rest).entries
      ∧ othersOf id (started.effects es) = othersOf id ((s.spared started).effects rest))
    ∧ (∀ target, Target.parse request.addr = .ok target → request.token ∉ s.cancelled →
      let kept := { s with isReleased := s.isReleased && (started.task? id).isNone }
      let lookup := .start (.lookup target.host) :: started.remaining id true es
      (s.after run).entries = (kept.after lookup).entries
      ∧ othersOf id (s.effects run) = othersOf id (kept.effects lookup))
    ∧ (∀ before e after, run = before ++ e :: after → (s.after before).subject? e = some id →
      (∀ host addresses, (s.after before).lookedUp? e ≠ some (id, host, .ok addresses)) →
        ((s.after before).step e).1.entries = (s.after before).entries)
    ∧ (s.askedBy id run).length ≤ 1
    ∧ ∀ flight ∈ s.askedBy id run, ∃ target, Target.parse request.addr = .ok target
      ∧ target.host ∉ s.entries.hosts := by
  intro s id run started
  have hs : s.Reachable γ := ⟨settings, now, history, rfl⟩
  have hn : s.Numbered := hs.numbered
  have hrequest : ∀ hosts, Request.dial request ≠ .refresh hosts := by simp
  have hasked : s.askedBy id run = asked (s.step (.start (.dial request) : CacheEvent γ)).2 :=
    asked_at_start hn hrequest es
  obtain ⟨hlength, hasks⟩ := s.asked_of_dial (γ := γ) request
  refine ⟨fun hfails => ?_, fun target hparse hc => ?_, fun before e after hrun hsubject hfinds =>
    hn.dial_entries hrun hsubject hfinds, hasked ▸ hlength, fun flight hm => ?_⟩
  · intro rest
    have hfinds : ¬ s.Finds id run := by
      rcases hparse : Target.parse request.addr with error | target
      · exact not_finds_of_unparsed hn hparse es
      · rcases hfails with ⟨error, herror⟩ | hcut | ⟨before, e, after, host, error, hrun, hl⟩
        · simp [hparse] at herror
        · exact not_finds_of_cutOff hn hparse hcut
        · rw [hrun]
          exact not_finds_of_failed hn hl
    exact ⟨connects_of_not_finds hn hfinds, run_spared hn hrequest hfinds⟩
  · exact run_as_lookup hn ((s.sought?_dial hparse).trans (if_neg hc)) es
  · rw [hasked] at hm
    rcases hasks with hnone | ⟨target, hparse, hunknown⟩
    · simp [hnone] at hm
    · refine ⟨target, hparse, fun hhost => ?_⟩
      obtain ⟨addresses, hknown⟩ := hs.known_of_mem hhost
      simp [hknown] at hunknown

/-- The list comes when the token is cancelled, and is dropped. -/
example :
    let request : DialRequest := ⟨"tcp", "db:80", fun _ => [0], .single 0⟩
    let run : List (CacheEvent Unit) :=
      [.start (.dial request), .cancel (.single 0), .answer 0 (some (.ok ["10.0.0.1"])) none]
    let s := CacheState.fresh .default ⟨0⟩
    (s.after run).entries.list = [] ∧ connectsOf 0 (s.effects run) = [] := by
  decide +kernel

end HostDialing

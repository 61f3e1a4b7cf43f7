import HostDialing.Proofs.Cache.Spared

/-!
# Lookups of unknown hosts

A lookup, or a prewarm, of a host without an entry asks the resolver once, and waits until it finds
an answer or its deadline has come. An error, an empty list and a missing answer have each an error
of their own, which names the host; a list that is not empty is stored for the host and returned.
Whatever happens beside a lookup that comes to no list, the entries are those of the run without it
(`CacheState.lookup_of_unknown`).
-/

namespace HostDialing

variable {γ : Type}

/-- The requests for the addresses of a host and nothing else. -/
inductive Inquiry where
  | lookup
  | prewarm

def Inquiry.request (host : String) : Inquiry → Request
  | lookup => .lookup host
  | prewarm => .prewarm host

def Inquiry.goal : Inquiry → Goal
  | lookup => .addresses
  | prewarm => .warmth

/-- What is returned: who prewarms is not given the list. -/
def Inquiry.result : Inquiry → Except ResolutionError (List String) → TaskResult γ
  | lookup, result => .addresses result
  | prewarm, result => .warmed (result.map fun _ => ())

/-- The lookup ends with an error and stores nothing. -/
structure Inquiry.Fails (q : Inquiry) (t : CacheState) (id : Nat) (error : ResolutionError)
    (r : Stepped γ) : Prop where
  effects : r.2 = [.finished id (q.result (.error error))]
  entries : r.1.entries = t.entries
  gone : r.1.task? id = none

/-- The lookup ends with a list, which it stores for the host and no other. -/
structure Inquiry.Succeeds (q : Inquiry) (t : CacheState) (id : Nat) (host : String)
    (addresses : List String) (r : Stepped γ) : Prop where
  effects : r.2 = [.learned host addresses, .finished id (q.result (.ok addresses))]
  entry : r.1.entries.get? host = some addresses
  others : ∀ other, other ≠ host → r.1.entries.get? other = t.entries.get? other
  gone : r.1.task? id = none

/-- What a look for the answer to the question of a lookup comes to, for every answer that there
may be, before the deadline, when it has come, and when it has passed. -/
structure Inquiry.Settles (q : Inquiry) (t : CacheState) (id : Nat) (flight : Flight)
    (limit : Duration) (look : Option Answer → Stepped γ) : Prop where
  error : t.now < flight.deadline → ∀ error,
    q.Fails t id (.lookup flight.host error) (look (some (.error error)))
  nothing : t.now < flight.deadline → q.Fails t id (.noAddresses flight.host) (look (some (.ok [])))
  list : t.now < flight.deadline → ∀ addresses, addresses ≠ [] →
    q.Succeeds t id flight.host addresses (look (some (.ok addresses)))
  unanswered : t.now < flight.deadline → look none = (t, [])
  due : flight.deadline ≤ t.now → q.Fails t id (.timeout flight.host limit) (look none)
  late : flight.deadline < t.now → ∀ answer,
    q.Fails t id (.timeout flight.host limit) (look answer)

namespace Inquiry

variable (q : Inquiry) {s t : CacheState} {id : Nat} {host : String} {flight : Flight}

theorem sought? (s : CacheState) (host : String) :
    s.sought? (q.request host) = some (host, q.goal) := by
  cases q <;> rfl

theorem cancelled? (s : CacheState) : q.goal.cancelled? s = none := by
  cases q <;> rfl

theorem reach (s : CacheState) (id : Nat) (host : String)
    (result : Except ResolutionError (List String)) :
    (s.reach id host q.goal result : Stepped γ)
      = (s.removeTask id, [.finished id (q.result result)]) := by
  cases q <;> rfl

/-- The resolver is asked, and nothing else is done. -/
theorem step_start (hk : s.entries.get? host = none) :
    let flight := Flight.start s.nextCall host s.now s.settings.lookupTimeout
    s.step (.start (q.request host) : CacheEvent γ)
      = ({ s.addTask s.nextTask (.resolving q.goal flight) with
          nextTask := s.nextTask + 1
          nextCall := s.nextCall + 1 }, [.resolve flight]) := by
  intro flight
  have hknown : s.entries.known? host = none := by rw [Entries.known?, hk, Option.filter_none]
  simp only [CacheState.step, CacheState.start_of_sought (q.sought? s host), CacheState.lookUp,
    hknown]
  rfl

/-- Until it has a result, or is dropped, the lookup waits. -/
theorem waits (hn : s.Numbered) (hlt : id < s.nextTask)
    (ht : s.task? id = some (.resolving q.goal flight)) {es : List (CacheEvent γ)}
    (habort : .abort id ∉ es) (hresults : resultsOf id (s.effects es) = []) :
    (s.after es).task? id = some (.resolving q.goal flight) := by
  induction es generalizing s with
  | nil => exact ht
  | cons e es ih =>
    rw [List.mem_cons, not_or] at habort
    rw [CacheState.effects, resultsOf_append, List.append_eq_nil_iff] at hresults
    have hlt' : id < (s.step e).1.nextTask := Nat.lt_of_lt_of_le hlt (hn.nextTask_after [e])
    refine ih (hn.step e) hlt' ?_ habort.2 hresults.2
    refine (CacheState.step_beside hn hlt (Ne.symm habort.1) (fun _ _ h => by simp [ht] at h)
      (fun goal' flight' h => ?_) fun owner answer he hid => ?_).1.trans ht
    · obtain ⟨rfl, -⟩ : q.goal = goal' ∧ flight = flight' := by simpa using ht.symm.trans h
      exact q.cancelled? s
    · -- with the end of its question it would have a result
      suffices hm : ∃ result, .finished id (q.result result) ∈ (s.step e).2 by
        obtain ⟨result, hm⟩ := hm
        have := mem_resultsOf.2 hm
        simp [hresults.1] at this
      rcases (CacheState.waits_of_ended he).task? hn hid with ⟨goal', flight', rfl, h⟩
        | ⟨_, _, -, h⟩
      · obtain ⟨rfl, -⟩ : q.goal = goal' ∧ flight = flight' := by simpa using ht.symm.trans h
        obtain ⟨_, -, hstep⟩ := CacheState.step_of_ended he
        refine ⟨resolved flight'.host s.settings.lookupTimeout answer, ?_⟩
        rw [hstep]
        simp only [CacheState.conclude, CacheState.endLookup, reach]
        split <;> simp [*]
      · simp [ht] at h

section answer

variable (hn : t.Numbered) (ht : t.task? id = some (.resolving q.goal flight))
  {answer : Option Answer} (cancels : Option Token)

include hn ht

theorem step_answer {a : Option Answer} (ha : flight.outcome? t.now answer = some a) :
    t.step (.answer flight.call answer cancels : CacheEvent γ)
      = (t.cancelBy answer.isSome cancels).endLookup id q.goal flight a := by
  have ho : t.owner? flight.call = some (.lookup id q.goal flight) :=
    hn.owner?_of_task (CacheState.mem_tasks_of_task? ht) (if_pos rfl)
  obtain ⟨cancelled, -, hc⟩ := t.cancelBy_eq answer.isSome cancels
  simp only [CacheState.step, CacheState.takeAnswer, ho, q.cancelled? t, hc, ha]

theorem fails {a : Option Answer} (ha : flight.outcome? t.now answer = some a)
    {error : ResolutionError}
    (hr : resolved flight.host t.settings.lookupTimeout a = .error error) :
    q.Fails t id error (t.step (.answer flight.call answer cancels : CacheEvent γ)) := by
  obtain ⟨cancelled, -, hc⟩ := t.cancelBy_eq answer.isSome cancels
  rw [q.step_answer hn ht cancels ha, hc]
  simp only [CacheState.endLookup, hr, reach]
  exact ⟨rfl, rfl, CacheState.task?_removeTask_self _ id⟩

theorem succeeds {a : Option Answer} (ha : flight.outcome? t.now answer = some a)
    {addresses : List String}
    (hr : resolved flight.host t.settings.lookupTimeout a = .ok addresses) :
    q.Succeeds t id flight.host addresses
      (t.step (.answer flight.call answer cancels : CacheEvent γ)) := by
  obtain ⟨cancelled, -, hc⟩ := t.cancelBy_eq answer.isSome cancels
  rw [q.step_answer hn ht cancels ha, hc]
  simp only [CacheState.endLookup, hr, reach]
  have hget (other : String) := t.entries.get?_insert flight.host other addresses
  exact ⟨rfl, (hget flight.host).trans (if_pos rfl),
    fun other hne => (hget other).trans (if_neg hne), CacheState.task?_removeTask_self _ id⟩

/-- Each answer is classified by what it is and when it is there. -/
theorem settles :
    q.Settles t id flight t.settings.lookupTimeout
      fun answer => t.step (.answer flight.call answer cancels : CacheEvent γ) := by
  have hcounts : t.now < flight.deadline → ∀ answer : Answer,
      flight.outcome? t.now (some answer) = some (some answer) := fun hlt answer =>
    if_pos (Nat.le_of_lt hlt)
  refine ⟨fun hlt error => ?_, fun hlt => ?_, fun hlt addresses hne => ?_, fun hlt => ?_,
    fun hle => ?_, fun hlt answer => ?_⟩
  · exact q.fails hn ht cancels (hcounts hlt _) rfl
  · exact q.fails hn ht cancels (hcounts hlt _) rfl
  · exact q.succeeds hn ht cancels (hcounts hlt _) (resolved_of_ne_nil hne _ _)
  · have hopen : flight.outcome? t.now none = none := if_neg (Nat.not_le_of_lt hlt)
    have ho : t.owner? flight.call = some (.lookup id q.goal flight) :=
      hn.owner?_of_task (CacheState.mem_tasks_of_task? ht) (if_pos rfl)
    simp [CacheState.step, CacheState.takeAnswer, ho, q.cancelled? t, CacheState.cancelBy, hopen]
  · have hdue : flight.outcome? t.now none = some none := if_pos hle
    exact q.fails hn ht cancels hdue rfl
  · refine q.fails hn ht cancels (a := none) ?_ rfl
    rcases answer with _ | answer
    · exact if_pos (Nat.le_of_lt hlt)
    · exact if_neg (Nat.not_le_of_lt hlt)

end answer

/-- A lookup that finds a list returns it. -/
theorem not_finds (hn : s.Numbered) (hk : s.entries.get? host = none) {es : List (CacheEvent γ)}
    (hnone : ∀ addresses, q.result (.ok addresses) ∉ resultsOf s.nextTask
      ((s.step (.start (q.request host) : CacheEvent γ)).1.effects es)) :
    ¬ s.Finds s.nextTask (.start (q.request host) :: es) := by
  set started := (s.step (.start (q.request host) : CacheEvent γ)).1
  have hstart : started = _ := congrArg Prod.fst (q.step_start hk)
  have hn' : started.Numbered := hn.step _
  have hlt : s.nextTask < started.nextTask := by
    rw [hstart]
    exact Nat.lt_succ_self _
  rintro (⟨_, addresses, hl⟩ | hf)
  · rcases CacheState.lookedUp_cases hl with ⟨_, _, _, he, -, hs, hknown, -⟩ | ⟨_, _, _, hended, -⟩
    · obtain rfl := CacheEvent.start.inj he
      obtain ⟨rfl, -⟩ := Prod.mk.inj (Option.some.inj ((q.sought? s host).symm.trans hs))
      simp [(Entries.known?_eq_some.1 hknown).1] at hk
    · simp [CacheState.ended?] at hended
  · obtain ⟨before, e, after, host', addresses, rfl, hl⟩ := CacheState.finds_iff.1 hf
    have hlt' := Nat.lt_of_lt_of_le hlt (hn'.nextTask_after before)
    obtain ⟨goal, s', said, hwho, -, hstep, -⟩ :=
      CacheState.step_of_lookedUp (hn'.after before) hl
    rcases hwho with ⟨_, -, hid, -⟩ | ⟨flight', ht, -⟩
    · exact absurd hid (Nat.ne_of_lt hlt')
    have hwaits : started.task? s.nextTask = some (.resolving q.goal
        (Flight.start s.nextCall host s.now s.settings.lookupTimeout)) := by
      rw [hstart]
      exact CacheState.task?_addTask_self _ hn.task?_nextTask
    obtain ⟨rfl, -⟩ := Task.resolving.inj (Option.some.inj
      (hwaits.symm.trans (CacheState.resolving_of_after hn' hlt ht)))
    refine hnone addresses (mem_resultsOf.2 ?_)
    rw [CacheState.effects_append, CacheState.effects, hstep, reach]
    simp

end Inquiry

/-- A lookup, or a prewarm, of an unknown host. It asks the resolver once and writes nothing as it
starts. As long as it has no result and is not dropped it waits for the answer, and what there is
when it looks is classified; only a list is stored. However it interleaves with what others do, a
lookup that returns no list leaves the entries that the run without it leads to, where everybody
else is told the same, and unless the host is known there the next lookup of it asks again. -/
theorem CacheState.lookup_of_unknown {s : CacheState} (hs : s.Reachable γ) {host : String}
    (hk : s.entries.get? host = none) (q : Inquiry) :
    let id := s.nextTask
    let flight := Flight.start s.nextCall host s.now s.settings.lookupTimeout
    let r : Stepped γ := s.step (.start (q.request host))
    (r.2 = [.resolve flight] ∧ r.1.entries = s.entries)
    ∧ (∀ es : List (CacheEvent γ), .abort id ∉ es → resultsOf id (r.1.effects es) = [] →
      ∀ cancels, q.Settles (r.1.after es) id flight s.settings.lookupTimeout
        fun answer => (r.1.after es).step (.answer flight.call answer cancels : CacheEvent γ))
    ∧ ∀ es : List (CacheEvent γ),
      (∀ addresses, q.result (.ok addresses) ∉ resultsOf id (r.1.effects es)) →
        let without := s.spared r.1
        let rest := r.1.remaining id false es
        (r.1.after es).entries = (without.after rest).entries
        ∧ othersOf id (r.1.effects es) = othersOf id (without.effects rest)
        ∧ ((without.after rest).entries.get? host = none → ∀ q' : Inquiry,
          asked ((r.1.after es).step (.start (q'.request host) : CacheEvent γ)).2
            = [.start (r.1.after es).nextCall host (r.1.after es).now
              s.settings.lookupTimeout]) := by
  intro id flight r
  have hn : s.Numbered := hs.numbered
  have hn' : r.1.Numbered := hn.step _
  have hstart : r = _ := q.step_start hk
  have hlt : id < r.1.nextTask := by
    rw [hstart]
    exact Nat.lt_succ_self _
  have ht : r.1.task? id = some (.resolving q.goal flight) := by
    rw [hstart]
    exact task?_addTask_self _ hn.task?_nextTask
  have hsettings (es : List (CacheEvent γ)) : (r.1.after es).settings = s.settings :=
    hn.settings_after (.start (q.request host) :: es)
  refine ⟨?_, fun es habort hresults cancels => ?_, fun es hnone => ?_⟩
  · rw [hstart]
    exact ⟨rfl, rfl⟩
  · rw [← hsettings es]
    exact q.settles (hn'.after es) (q.waits hn' hlt ht habort hresults) cancels
  · intro without rest
    have hrequest : ∀ hosts, q.request host ≠ .refresh hosts := by
      cases q <;> simp [Inquiry.request]
    obtain ⟨hentries, heffects⟩ := run_spared hn hrequest (q.not_finds hn hk hnone)
    refine ⟨hentries, heffects, fun hunknown q' => ?_⟩
    rw [q'.step_start (hentries ▸ hunknown), hsettings es]
    rfl

/-- Two lookups of a host that nobody knows: one is told that there is none, after the other has
stored what it was given. -/
theorem CacheState.lookup_of_unknown_beside_another :
    let s := CacheState.fresh .default ⟨0⟩
    let t := (s.step (.start (.lookup "db") : CacheEvent Unit)).1
    let other : List (CacheEvent Unit) :=
      [.start (.lookup "db"), .answer 1 (some (.ok ["10.0.0.1"])) none]
    let es := other ++ [.answer 0 (some (.error (noSuchHost "db"))) none]
    resultsOf 0 (t.effects es) = [.addresses (.error (.lookup "db" (noSuchHost "db")))]
      ∧ t.remaining 0 false es = other
      ∧ (t.after es).entries = ((s.spared t).after other).entries
      ∧ (t.after es).entries.list = [("db", ["10.0.0.1"])] := by
  intro s t other es
  have hk : s.entries.get? "db" = none := rfl
  have hresults : resultsOf 0 (t.effects es)
      = [.addresses (.error (.lookup "db" (noSuchHost "db")))] := by rfl
  have hrest : t.remaining 0 false es = other := by rfl
  have hnone : ∀ addresses,
      Inquiry.lookup.result (.ok addresses) ∉ resultsOf 0 (t.effects es) := by
    rw [hresults]
    simp [Inquiry.result]
  have h := (lookup_of_unknown (γ := Unit) reachable_default hk .lookup).2.2 es hnone
  refine ⟨hresults, hrest, ?_, by decide +kernel⟩
  rw [← hrest]
  exact h.1

end HostDialing

import HostDialing.Proofs.Cache.Answers

/-!
# Failover of a dial

Once its lookup has given the addresses, a dial depends on nothing but the outcomes of its own
attempts: whatever else happens to the cache happens beside it (`CacheState.step_beside`). It tries
the candidates one at a time, each after the one before has failed, and keeps the first failure.
-/

namespace HostDialing

variable {γ : Type}

/-- What the connector is asked for in the name of a dial: networks and candidates. -/
def connectsOf (id : Nat) (effects : List (CacheEffect γ)) : List (String × String) :=
  effects.filterMap fun
    | .connect task network candidate => if task = id then some (network, candidate) else none
    | _ => none

def resultsOf (id : Nat) (effects : List (CacheEffect γ)) : List (TaskResult γ) :=
  effects.filterMap fun
    | .finished task result => if task = id then some result else none
    | _ => none

/-- The outcomes that a run has for the attempts of a dial. -/
def outcomesOf (id : Nat) (es : List (CacheEvent γ)) : List (Except IoError γ) :=
  es.filterMap fun
    | .outcome task outcome _ => if task = id then outcome else none
    | _ => none

/-- The failures before the first connection. -/
def failures : List (Except IoError γ) → List IoError
  | .error e :: outcomes => e :: failures outcomes
  | _ => []

/-- What the connector is asked for and what a dial has come to, if its attempts at the candidates
that are left had these outcomes. -/
structure FailsOver (request : DialRequest) (left : List String)
    (outcomes : List (Except IoError γ)) (connects : List (String × String))
    (results : List (TaskResult γ)) : Prop where
  /-- The candidates up to the first that connects, and as long as all fail one more. -/
  connects : connects
    = (left.take ((failures outcomes).length + 1)).map (request.network, ·)
  untried : left = [] → results = [.dialed (.error (.noAttempts request.addr))]
  tried : (failures outcomes).length < left.length →
    results = match outcomes[(failures outcomes).length]? with
      | some (.ok connection) => [.dialed (.ok connection)]
      | _ => []
  /-- If all fail the first failure is handed back as it came. -/
  failed : left ≠ [] → left.length ≤ (failures outcomes).length →
    ∃ error, outcomes.head? = some (.error error)
      ∧ results = [.dialed (.error (.connect error))]
      ∧ (DialError.connect error).toIoError = error

/-- The same of a dial that waits for the outcome of an attempt: what is left is what comes after
it, and `first` is the first failure so far. -/
structure GoesOn (request : DialRequest) (left : List String) (first : Option IoError)
    (outcomes : List (Except IoError γ)) (connects : List (String × String))
    (results : List (TaskResult γ)) : Prop where
  connects : connects = (left.take (failures outcomes).length).map (request.network, ·)
  tried : (failures outcomes).length ≤ left.length →
    results = match outcomes[(failures outcomes).length]? with
      | some (.ok connection) => [.dialed (.ok connection)]
      | _ => []
  failed : left.length < (failures outcomes).length →
    ∃ error, first.or (failures outcomes).head? = some error
      ∧ results = [.dialed (.error (.connect error))]

section law

variable {request : DialRequest} {left : List String} {first : Option IoError}
  {outcomes : List (Except IoError γ)} {connects : List (String × String)}
  {results : List (TaskResult γ)}

theorem GoesOn.pending : GoesOn (γ := γ) request left first [] [] [] :=
  ⟨rfl, fun _ => rfl, fun h => absurd h (Nat.not_lt_zero _)⟩

theorem GoesOn.connected (connection : γ) :
    GoesOn request left first (.ok connection :: outcomes) [] [.dialed (.ok connection)] :=
  ⟨rfl, fun _ => rfl, fun h => absurd h (Nat.not_lt_zero _)⟩

theorem GoesOn.exhausted (error : IoError) :
    GoesOn request [] first (.error error :: outcomes) []
      [.dialed (.error (.connect (first.getD error)))] := by
  refine ⟨rfl, fun h => absurd h (Nat.not_succ_le_zero _), fun _ => ⟨first.getD error, ?_, rfl⟩⟩
  cases first <;> rfl

theorem GoesOn.next {error : IoError} (candidate : String)
    (h : GoesOn request left (some (first.getD error)) outcomes connects results) :
    GoesOn request (candidate :: left) first (.error error :: outcomes)
      ((request.network, candidate) :: connects) results := by
  refine ⟨?_, fun hl => h.tried (Nat.le_of_succ_le_succ hl), fun hl => ?_⟩
  · rw [h.connects]
    rfl
  · obtain ⟨error', he, hr⟩ := h.failed (Nat.lt_of_succ_lt_succ hl)
    refine ⟨error', ?_, hr⟩
    rw [← he]
    cases first <;> rfl

theorem head?_of_failures {error : IoError} (h : (failures outcomes).head? = some error) :
    outcomes.head? = some (.error error) := by
  rcases outcomes with _ | ⟨e | connection, outcomes⟩
  · simp [failures] at h
  · obtain rfl : e = error := by simpa [failures] using h
    rfl
  · simp [failures] at h

theorem FailsOver.none_left :
    FailsOver request [] outcomes [] [.dialed (.error (.noAttempts request.addr))] :=
  ⟨rfl, fun _ => rfl, fun h => absurd h (Nat.not_lt_zero _), fun h => absurd rfl h⟩

theorem FailsOver.of_goesOn (candidate : String)
    (h : GoesOn request left none outcomes connects results) :
    FailsOver request (candidate :: left) outcomes ((request.network, candidate) :: connects)
      results := by
  refine ⟨?_, fun hl => by simp at hl, fun hl => h.tried (Nat.le_of_lt_succ hl), fun _ hl => ?_⟩
  · rw [h.connects]
    rfl
  · obtain ⟨error, he, hr⟩ := h.failed hl
    exact ⟨error, head?_of_failures he, hr, rfl⟩

end law

theorem connectsOf_append (id : Nat) (l l' : List (CacheEffect γ)) :
    connectsOf id (l ++ l') = connectsOf id l ++ connectsOf id l' :=
  List.filterMap_append

theorem resultsOf_append (id : Nat) (l l' : List (CacheEffect γ)) :
    resultsOf id (l ++ l') = resultsOf id l ++ resultsOf id l' :=
  List.filterMap_append

/-- Nothing is done in the name of a dial where all effects have another's name or nobody's. -/
theorem connectsOf_eq_nil {id : Nat} {effects : List (CacheEffect γ)}
    (h : ∀ effect ∈ effects, effect.task? ≠ some id) :
    connectsOf id effects = [] ∧ resultsOf id effects = [] := by
  constructor
  · refine List.filterMap_eq_nil_iff.2 fun effect he => ?_
    have := h effect he
    rcases effect <;> simp_all [CacheEffect.task?]
  · refine List.filterMap_eq_nil_iff.2 fun effect he => ?_
    have := h effect he
    rcases effect <;> simp_all [CacheEffect.task?]

/-- What has ended is not there again, and no step is about it. -/
theorem CacheState.step_of_gone {s : CacheState} (hn : s.Numbered) {id : Nat}
    (hlt : id < s.nextTask) (ht : s.task? id = none) (e : CacheEvent γ) :
    (s.step e).1.task? id = none ∧ (∀ effect ∈ (s.step e).2, effect.task? ≠ some id)
      ∧ (s.subject? e = some id → asked (s.step e).2 = []) := by
  by_cases habort : e = .abort id
  · subst habort
    exact ⟨s.task?_removeTask_self id, by simp [step], fun _ => rfl⟩
  obtain ⟨hkept, hnothing, hasked⟩ := step_beside hn hlt habort
    (fun request attempts h => by simp [ht] at h) (fun goal flight h => by simp [ht] at h)
    (fun owner answer he hid => by
      rcases (waits_of_ended he).task? hn hid with ⟨_, _, -, h⟩ | ⟨_, _, -, h⟩ <;>
        simp [ht] at h)
  exact ⟨hkept.trans ht, hnothing, hasked⟩

/-- What has ended does nothing any more. -/
theorem CacheState.nothing_after_end {s : CacheState} (hn : s.Numbered) {id : Nat}
    (hlt : id < s.nextTask) (ht : s.task? id = none) (es : List (CacheEvent γ)) :
    ∀ effect ∈ s.effects es, effect.task? ≠ some id := by
  induction es generalizing s with
  | nil => simp [effects]
  | cons e es ih =>
    obtain ⟨hgone, hnothing, -⟩ := step_of_gone hn hlt ht e
    intro effect hm
    rcases List.mem_append.1 hm with hm | hm
    · exact hnothing effect hm
    · have hlt' : id < (s.step e).1.nextTask :=
        Nat.lt_of_lt_of_le hlt (hn.nextTask_after [e])
      exact ih (hn.step e) hlt' hgone effect hm

theorem CacheState.not_resolving_after {s : CacheState} (hn : s.Numbered) {id : Nat}
    (hlt : id < s.nextTask) (ht : ∀ goal flight, s.task? id ≠ some (.resolving goal flight))
    (es : List (CacheEvent γ)) :
    ∀ goal flight, (s.after es).task? id ≠ some (.resolving goal flight) := by
  induction es generalizing s with
  | nil => exact ht
  | cons e es ih =>
    have hlt' : id < (s.step e).1.nextTask := Nat.lt_of_lt_of_le hlt (hn.nextTask_after [e])
    refine ih (hn.step e) hlt' fun goal flight h => ?_
    rcases resolving_of_step (mem_tasks_of_task? h) with h | ⟨request, -, hid, -⟩
    · exact ht goal flight (hn.task?_of_mem h)
    · omega

theorem CacheState.attemptNext_task? {s : CacheState} {id : Nat} (h : (s.task? id).isSome)
    (request : DialRequest) (attempts : Attempts) :
    ∀ goal flight, (s.attemptNext id request attempts : Stepped γ).1.task? id
      ≠ some (.resolving goal flight) := by
  intro goal flight
  unfold attemptNext
  split
  · simp [task?_removeTask_self]
  · simp [task?_setTask_self _ h]

theorem CacheState.reach_task? {s : CacheState} {id : Nat} (h : (s.task? id).isSome)
    (host : String) (goal : Goal) (result : Except ResolutionError (List String)) :
    ∀ goal' flight, (s.reach id host goal result : Stepped γ).1.task? id
      ≠ some (.resolving goal' flight) := by
  intro goal' flight
  unfold reach
  split
  all_goals try simp [task?_removeTask_self]
  exact attemptNext_task? h _ _ goal' flight

theorem CacheState.cancelled?_of_after {s : CacheState} (hn : s.Numbered) {goal : Goal}
    (es : List (CacheEvent γ)) (h : goal.cancelled? (s.after es) = none) :
    goal.cancelled? s = none := by
  rcases goal with _ | _ | order | ⟨request, port⟩
  case dial =>
    have hc : request.token ∉ (s.after es).cancelled := by
      simpa [Goal.cancelled?, isCancelled] using h
    have hc' : request.token ∉ s.cancelled := fun hm => hc (hn.cancelled_after es hm)
    simpa [Goal.cancelled?, isCancelled] using hc'
  all_goals rfl

/-- A task that still waits for the answer to its lookup has done nothing since. -/
theorem CacheState.nothing_before_answer {s : CacheState} (hn : s.Numbered) {id : Nat}
    (hlt : id < s.nextTask) {goal : Goal} {flight : Flight}
    (ht : s.task? id = some (.resolving goal flight)) {es : List (CacheEvent γ)}
    (habort : .abort id ∉ es) (hc : goal.cancelled? (s.after es) = none) {goal' : Goal}
    {flight' : Flight} (h : (s.after es).task? id = some (.resolving goal' flight')) :
    goal' = goal ∧ flight' = flight ∧ ∀ effect ∈ s.effects es, effect.task? ≠ some id := by
  induction es generalizing s with
  | nil =>
    obtain ⟨rfl, rfl⟩ : goal = goal' ∧ flight = flight' := by simpa using ht.symm.trans h
    exact ⟨rfl, rfl, by simp [effects]⟩
  | cons e es ih =>
    rw [List.mem_cons, not_or] at habort
    have hlt' : id < (s.step e).1.nextTask := Nat.lt_of_lt_of_le hlt (hn.nextTask_after [e])
    by_cases hend : ∃ owner answer, s.ended? e = some (owner, answer) ∧ owner.id? = some id
    · -- with its question the wait would be over for good
      obtain ⟨owner, answer, he, hid⟩ := hend
      refine absurd h (not_resolving_after (hn.step e) hlt' ?_ es goal' flight')
      rcases (waits_of_ended he).task? hn hid with ⟨goal, flight, rfl, h'⟩ | ⟨_, _, rfl, h'⟩
      · obtain ⟨cancelled, -, hs⟩ := step_of_ended he
        rw [hs]
        simp only [conclude, endLookup]
        split
        · refine reach_task? ?_ _ _ _
          exact Option.isSome_of_mem h'
        · refine reach_task? ?_ _ _ _
          exact Option.isSome_of_mem h'
      · simp [ht] at h'
    · have hc' : goal.cancelled? s = none := cancelled?_of_after hn (e :: es) hc
      obtain ⟨hkept, hnothing, -⟩ := step_beside hn hlt (Ne.symm habort.1)
        (fun request attempts h => by simp [ht] at h)
        (fun goal' flight' h => by
          obtain ⟨rfl, -⟩ : goal = goal' ∧ flight = flight' := by simpa using ht.symm.trans h
          exact hc')
        (fun owner answer he hid => hend ⟨owner, answer, he, hid⟩)
      obtain ⟨hg, hf, hrest⟩ := ih (hn.step e) hlt' (hkept.trans ht) habort.2 hc h
      refine ⟨hg, hf, fun effect hm => ?_⟩
      rcases List.mem_append.1 hm with hm | hm
      · exact hnothing effect hm
      · exact hrest effect hm

theorem CacheState.attemptNext_nil (s : CacheState) (request : DialRequest) (id : Nat)
    (first : Option IoError) :
    (s.attemptNext id request ⟨[], first⟩ : Stepped γ)
      = (s.removeTask id,
        [.finished id (.dialed (.error (Attempts.error ⟨[], first⟩ request.addr)))]) := by
  simp [attemptNext, Attempts.next]

theorem CacheState.attemptNext_cons {s : CacheState} {request : DialRequest}
    (hc : request.token ∉ s.cancelled) (id : Nat) (candidate : String) (rest : List String)
    (first : Option IoError) :
    (s.attemptNext id request ⟨candidate :: rest, first⟩ : Stepped γ)
      = (s.setTask id (.attempting request ⟨rest, first⟩),
        [.connect id request.network candidate]) := by
  simp [attemptNext, Attempts.next, isCancelled, hc]

theorem Attempts.failed_eq (left : List String) (first : Option IoError) (error : IoError) :
    Attempts.failed ⟨left, first⟩ error = ⟨left, some (first.getD error)⟩ := by
  cases first <;> rfl

/-- What the outcome of an attempt leads to. -/
theorem CacheState.step_outcome {s : CacheState} {id : Nat} {request : DialRequest}
    {attempts : Attempts} (ht : s.task? id = some (.attempting request attempts))
    (hc : request.token ∉ s.cancelled) (outcome : Option (Except IoError γ))
    (cancels : Option Token) :
    ∃ cancelled, s.step (.outcome id outcome cancels) =
      match outcome with
      | none => (s, [])
      | some (.ok connection) => ({ s with cancelled := cancelled }.removeTask id,
        [.finished id (.dialed (.ok connection))])
      | some (.error error) =>
        { s with cancelled := cancelled }.attemptNext id request (attempts.failed error) := by
  have hc : ¬ s.isCancelled request.token := by simpa [isCancelled] using hc
  obtain ⟨cancelled, -, hs⟩ := s.cancelBy_eq outcome.isSome cancels
  refine ⟨cancelled, ?_⟩
  simp only [step, takeOutcome, ht, if_neg hc, hs]
  rcases outcome with _ | error | connection
  · rw [← hs]
    cases cancels <;> rfl
  · rfl
  · rfl

/-- A step beside a dial that waits for the outcome of an attempt. -/
theorem CacheState.step_beside_attempt {s : CacheState} (hn : s.Numbered) {id : Nat}
    (hlt : id < s.nextTask) {request : DialRequest} {attempts : Attempts}
    (ht : s.task? id = some (.attempting request attempts)) {e : CacheEvent γ}
    (habort : e ≠ .abort id) (he : ∀ outcome cancels, e ≠ .outcome id outcome cancels) :
    (s.step e).1.task? id = some (.attempting request attempts)
      ∧ ∀ effect ∈ (s.step e).2, effect.task? ≠ some id := by
  obtain ⟨hkept, hnothing, -⟩ := step_beside hn hlt habort (fun _ _ _ => he)
    (fun goal flight h => by simp [ht] at h) (fun owner answer he hid => by
      rcases (waits_of_ended he).task? hn hid with ⟨_, _, -, h⟩ | ⟨_, _, -, h⟩
      · simp [ht] at h
      · simp [ht] at h)
  exact ⟨hkept.trans ht, hnothing⟩

theorem outcomesOf_cons (id : Nat) (outcome : Option (Except IoError γ)) (cancels : Option Token)
    (es : List (CacheEvent γ)) :
    outcomesOf id (.outcome id outcome cancels :: es) = outcome.toList ++ outcomesOf id es := by
  cases outcome <;> simp [outcomesOf]

theorem outcomesOf_cons_of_ne {id : Nat} {e : CacheEvent γ}
    (he : ∀ outcome cancels, e ≠ .outcome id outcome cancels) (es : List (CacheEvent γ)) :
    outcomesOf id (e :: es) = outcomesOf id es := by
  refine List.filterMap_cons_none ?_
  split
  · rename_i task outcome cancels
    rw [if_neg]
    rintro rfl
    exact he outcome cancels rfl
  · rfl

/-- A dial that waits for the outcome of an attempt: each failure lets it try the next candidate,
the first connection is its result, and without a candidate left its result is the first failure
of all. -/
theorem CacheState.attempts_after {s : CacheState} (hn : s.Numbered) {id : Nat}
    (hlt : id < s.nextTask) {request : DialRequest} {left : List String}
    {first : Option IoError} (ht : s.task? id = some (.attempting request ⟨left, first⟩))
    {es : List (CacheEvent γ)} (habort : .abort id ∉ es)
    (hc : request.token ∉ (s.after es).cancelled) :
    GoesOn request left first (outcomesOf id es) (connectsOf id (s.effects es))
      (resultsOf id (s.effects es)) := by
  induction es generalizing s left first with
  | nil => exact .pending
  | cons e es ih =>
    rw [List.mem_cons, not_or] at habort
    have hn₁ := hn.step e
    have hlt₁ : id < (s.step e).1.nextTask := Nat.lt_of_lt_of_le hlt (hn.nextTask_after [e])
    have hc₀ : request.token ∉ s.cancelled := fun hm => hc (hn.cancelled_after (e :: es) hm)
    rw [effects, connectsOf_append, resultsOf_append]
    by_cases hout : ∃ outcome cancels, e = .outcome id outcome cancels
    case neg =>
      have he : ∀ outcome cancels, e ≠ .outcome id outcome cancels :=
        fun outcome cancels he => hout ⟨outcome, cancels, he⟩
      obtain ⟨ht₁, hnothing⟩ := step_beside_attempt hn hlt ht (Ne.symm habort.1) he
      obtain ⟨hcalls, hends⟩ := connectsOf_eq_nil hnothing
      rw [outcomesOf_cons_of_ne he, hcalls, hends]
      exact ih hn₁ hlt₁ ht₁ habort.2 hc
    obtain ⟨outcome, cancels, rfl⟩ := hout
    obtain ⟨cancelled, hstep⟩ := step_outcome ht hc₀ outcome cancels
    rw [outcomesOf_cons]
    rw [after] at hc
    rw [hstep] at hn₁ hlt₁ hc ⊢
    rcases outcome with _ | error | connection
    · exact ih hn hlt ht habort.2 hc
    · simp only [Attempts.failed_eq] at hn₁ hlt₁ hc ⊢
      rcases left with _ | ⟨candidate, left⟩
      · rw [attemptNext_nil] at hn₁ hlt₁ ⊢
        obtain ⟨hcalls, hends⟩ := connectsOf_eq_nil
          (nothing_after_end hn₁ hlt₁ (task?_removeTask_self _ id) es)
        rw [hcalls, hends]
        simpa [connectsOf, resultsOf, Attempts.error] using GoesOn.exhausted error
      · have hc₁ : request.token ∉ ({ s with cancelled := cancelled } : CacheState).cancelled := by
          have := fun hm => hc (hn₁.cancelled_after es hm)
          rwa [(Stepped.Drops.attemptNext _ id request _).state] at this
        rw [attemptNext_cons hc₁] at hn₁ hlt₁ hc ⊢
        have ht₁ := task?_setTask_self (s := { s with cancelled := cancelled })
          (.attempting request ⟨left, some (first.getD error)⟩) (Option.isSome_of_mem ht)
        simpa [connectsOf, resultsOf] using (ih hn₁ hlt₁ ht₁ habort.2 hc).next candidate
    · obtain ⟨hcalls, hends⟩ := connectsOf_eq_nil
        (nothing_after_end hn₁ hlt₁ (task?_removeTask_self _ id) es)
      rw [hcalls, hends]
      simpa [connectsOf, resultsOf] using GoesOn.connected connection

/-- A dial has taken the first candidate, or has ended because there is none. -/
def CacheState.TakesFirst (s : CacheState) (id : Nat) (request : DialRequest) (left : List String)
    (effects : List (CacheEffect γ)) : Prop :=
  match left with
  | [] => s.task? id = none ∧ connectsOf id effects = []
    ∧ resultsOf id effects = [.dialed (.error (.noAttempts request.addr))]
  | candidate :: rest => s.task? id = some (.attempting request ⟨rest, none⟩)
    ∧ connectsOf id effects = [(request.network, candidate)] ∧ resultsOf id effects = []

theorem CacheState.reach_dial {s : CacheState} {id : Nat} (ht : (s.task? id).isSome)
    {request : DialRequest} (host : String) (port : UInt16) (addresses : List String)
    (hc : request.token ∉
      (s.reach id host (.dial request port) (.ok addresses) : Stepped γ).1.cancelled) :
    let r : Stepped γ := s.reach id host (.dial request port) (.ok addresses)
    r.1.TakesFirst id request (candidates addresses (request.order addresses.length) port) r.2 := by
  have hc : request.token ∉ s.cancelled := by
    rwa [(Stepped.Drops.reach s id host _ _).state] at hc
  simp only [reach, Attempts.begin]
  rcases candidates addresses (request.order addresses.length) port with _ | ⟨candidate, rest⟩
  · simp only [attemptNext_nil]
    exact ⟨s.task?_removeTask_self id, by simp [connectsOf], by simp [resultsOf, Attempts.error]⟩
  · simp only [attemptNext_cons hc]
    exact ⟨task?_setTask_self _ ht, by simp [connectsOf], by simp [resultsOf]⟩

theorem CacheState.nextTask_of_sought {s : CacheState} (hn : s.Numbered) {request : Request}
    {host : String} {goal : Goal} (hs : s.sought? request = some (host, goal)) :
    (s.step (.start request : CacheEvent γ)).1.nextTask = s.nextTask + 1 := by
  have hid : s.nextTask ∉ s.ids := fun hm => Nat.lt_irrefl _ (hn.ids_lt _ hm)
  obtain ⟨-, -, hnext, -⟩ :=
    lookUp_moved (γ := γ) (s := { s with nextTask := s.nextTask + 1 }) hid host goal
  rw [step, start_of_sought hs, hnext]

/-- A task that is started to look a host up waits for the answer, or needs none. -/
theorem CacheState.task?_of_start {s : CacheState} (hn : s.Numbered) {request : Request}
    {host : String} {goal : Goal} (hs : s.sought? request = some (host, goal)) :
    let r : Stepped γ := s.step (.start request)
    (∀ goal' flight, r.1.task? s.nextTask ≠ some (.resolving goal' flight))
    ∨ ∃ flight, r.1.task? s.nextTask = some (.resolving goal flight) ∧ flight.host = host
      ∧ ∀ effect ∈ r.2, effect.task? ≠ some s.nextTask := by
  have hadd : ∀ t, (({ s with nextTask := s.nextTask + 1 } : CacheState).addTask
      s.nextTask t).task? s.nextTask = some t :=
    fun t => task?_addTask_self (s := { s with nextTask := s.nextTask + 1 }) t hn.task?_nextTask
  simp only [step, start_of_sought hs, lookUp]
  split
  · refine .inl (reach_task? ?_ _ _ _)
    exact Option.isSome_of_mem (hadd _)
  · exact .inr ⟨_, hadd _, rfl, by simp [CacheEffect.task?]⟩

/-- Until its lookup comes to something a task does nothing, and then it goes on with that. -/
theorem CacheState.nothing_before_found {s : CacheState} (hn : s.Numbered) {request : Request}
    {sought : String} {goal : Goal} (hsought : s.sought? request = some (sought, goal))
    {es before after : List (CacheEvent γ)} {e : CacheEvent γ}
    (hrun : .start request :: es = before ++ e :: after) {host : String}
    {result : Except ResolutionError (List String)}
    (hlookup : (s.after before).lookedUp? e = some (s.nextTask, host, result))
    (hc : goal.cancelled? (s.after before) = none) (habort : .abort s.nextTask ∉ es) :
    host = sought ∧ s.nextTask < ((s.after before).step e).1.nextTask
      ∧ (∀ effect ∈ s.effects before, effect.task? ≠ some s.nextTask)
      ∧ ∃ s' : CacheState, ∃ said, (s'.task? s.nextTask).isSome
        ∧ (s.after before).step e
          = ((s'.reach s.nextTask host goal result : Stepped γ).1,
            said ++ (s'.reach s.nextTask host goal result).2)
        ∧ ∀ effect ∈ said, effect.task? = none := by
  obtain ⟨goal', s', said, hwho, hsome, hstep, hsaid⟩ :=
    step_of_lookedUp (hn.after before) hlookup
  suffices h : host = sought ∧ goal' = goal
      ∧ s.nextTask < ((s.after before).step e).1.nextTask
      ∧ ∀ effect ∈ s.effects before, effect.task? ≠ some s.nextTask by
    obtain ⟨hhost, rfl, hlt, hnothing⟩ := h
    exact ⟨hhost, hlt, hnothing, s', said, hsome, hstep, hsaid⟩
  have hnext := nextTask_of_sought (γ := γ) hn hsought
  rcases before with _ | ⟨first, before⟩
  · obtain ⟨rfl, rfl⟩ : .start request = e ∧ es = after := by simpa using hrun
    rcases hwho with ⟨request', hr, -, hs⟩ | ⟨flight, ht, -⟩
    · obtain rfl : request = request' := by simpa using hr
      obtain ⟨rfl, rfl⟩ : host = sought ∧ goal' = goal := by
        simpa using hs.symm.trans hsought
      exact ⟨rfl, rfl, by rw [after, hnext]; exact Nat.lt_succ_self _, by simp [effects]⟩
    · have := hn.task?_nextTask.symm.trans ht
      simp at this
  · obtain ⟨rfl, rfl⟩ : .start request = first ∧ es = before ++ e :: after := by
      simpa using hrun
    have hlt : s.nextTask < (s.step (.start request : CacheEvent γ)).1.nextTask := by
      rw [hnext]
      exact Nat.lt_succ_self _
    have hlt' := Nat.lt_of_lt_of_le hlt ((hn.step _).nextTask_after before)
    rcases hwho with ⟨request', -, hid, -⟩ | ⟨flight, ht, rfl⟩
    · exact absurd hid (Nat.ne_of_lt hlt')
    rcases task?_of_start (γ := γ) hn hsought with h | ⟨flight', h, hf, hnothing⟩
    · exact absurd ht (not_resolving_after (hn.step _) hlt h before goal' flight)
    · have habort' : .abort s.nextTask ∉ before := fun hm => habort (List.mem_append_left _ hm)
      obtain ⟨rfl, rfl, hrest⟩ := nothing_before_answer (hn.step _) hlt h habort' hc ht
      refine ⟨hf, rfl, ?_, fun effect hm => ?_⟩
      · exact Nat.lt_of_lt_of_le hlt' ((hn.after (_ :: before)).nextTask_after [e])
      rcases List.mem_append.1 hm with hm | hm
      · exact hnothing effect hm
      · exact hrest effect hm

/-- So all that a task does it does from where its lookup comes to something. -/
theorem CacheState.done_of_found {s : CacheState} (hn : s.Numbered) {request : Request}
    {host : String} {goal : Goal} (hsought : s.sought? request = some (host, goal))
    {es before after : List (CacheEvent γ)} {e : CacheEvent γ}
    (hrun : .start request :: es = before ++ e :: after)
    {result : Except ResolutionError (List String)}
    (hlookup : (s.after before).lookedUp? e = some (s.nextTask, host, result))
    (hc : goal.cancelled? (s.after before) = none) (habort : .abort s.nextTask ∉ es) :
    ∃ s' : CacheState, (s'.task? s.nextTask).isSome ∧
      let first : Stepped γ := s'.reach s.nextTask host goal result
      ((s.after before).step e).1 = first.1 ∧ s.nextTask < first.1.nextTask
        ∧ connectsOf s.nextTask (s.effects (before ++ e :: after))
          = connectsOf s.nextTask (first.2 ++ first.1.effects after)
        ∧ resultsOf s.nextTask (s.effects (before ++ e :: after))
          = resultsOf s.nextTask (first.2 ++ first.1.effects after) := by
  obtain ⟨-, hlt, hnothing, s', said, hsome, hstep, hsaid⟩ :=
    nothing_before_found hn hsought hrun hlookup hc habort
  refine ⟨s', hsome, ?_⟩
  intro first
  have hnow : ((s.after before).step e).1 = first.1 := by rw [hstep]
  have hquiet : ∀ effect ∈ s.effects before ++ said, effect.task? ≠ some s.nextTask := by
    intro effect hm
    rcases List.mem_append.1 hm with hm | hm
    · exact hnothing effect hm
    · simp [hsaid effect hm]
  have heffects : s.effects (before ++ e :: after)
      = (s.effects before ++ said) ++ (first.2 ++ first.1.effects after) := by
    simp only [first, effects_append, effects, hstep, List.append_assoc]
  obtain ⟨hconnects, hresults⟩ := connectsOf_eq_nil hquiet
  refine ⟨hnow, hnow ▸ hlt, ?_, ?_⟩
  · rw [heffects, connectsOf_append, hconnects, List.nil_append]
  · rw [heffects, resultsOf_append, hresults, List.nil_append]

/-- The same of a dial. -/
theorem CacheState.nothing_before_lookedUp {s : CacheState} (hn : s.Numbered)
    {request : DialRequest} {target : Target}
    (hsought : s.sought? (.dial request) = some (target.host, .dial request target.port))
    {es before after : List (CacheEvent γ)} {e : CacheEvent γ}
    (hrun : .start (.dial request) :: es = before ++ e :: after) {host : String}
    {result : Except ResolutionError (List String)}
    (hlookup : (s.after before).lookedUp? e = some (s.nextTask, host, result))
    (hc : request.token ∉ (s.after before).cancelled) (habort : .abort s.nextTask ∉ es) :
    host = target.host ∧ s.nextTask < ((s.after before).step e).1.nextTask
      ∧ (∀ effect ∈ s.effects before, effect.task? ≠ some s.nextTask)
      ∧ ∃ s' : CacheState, ∃ said, (s'.task? s.nextTask).isSome
        ∧ (s.after before).step e
          = ((s'.reach s.nextTask host (.dial request target.port) result : Stepped γ).1,
            said ++ (s'.reach s.nextTask host (.dial request target.port) result).2)
        ∧ ∀ effect ∈ said, effect.task? = none := by
  refine nothing_before_found hn hsought hrun hlookup ?_ habort
  simpa [Goal.cancelled?, isCancelled] using hc

theorem CacheState.failsOver_after {r : Stepped γ} (hn : r.1.Numbered) {id : Nat}
    (hlt : id < r.1.nextTask) {request : DialRequest} {left : List String}
    (hr : r.1.TakesFirst id request left r.2) {es : List (CacheEvent γ)} (habort : .abort id ∉ es)
    (hc : request.token ∉ (r.1.after es).cancelled) :
    FailsOver request left (outcomesOf id es)
      (connectsOf id r.2 ++ connectsOf id (r.1.effects es))
      (resultsOf id r.2 ++ resultsOf id (r.1.effects es)) := by
  rcases left with _ | ⟨candidate, left⟩
  · obtain ⟨ht, hcall, hend⟩ := hr
    obtain ⟨hcalls, hends⟩ := connectsOf_eq_nil (nothing_after_end hn hlt ht es)
    rw [hcall, hend, hcalls, hends]
    exact .none_left
  · obtain ⟨ht, hcall, hend⟩ := hr
    rw [hcall, hend]
    exact .of_goesOn candidate (attempts_after hn hlt ht habort hc)

/-- Failover, whatever else happens to the cache: a dial whose lookup gave a list calls the
connector for the candidates of that list, one after another, up to the first that connects. That
connection is its result; if all fail it is the first failure, as it came, and without a candidate
there was no attempt. -/
theorem CacheState.dial_fails_over {s : CacheState} (hs : s.Reachable γ) {request : DialRequest}
    {target : Target} (hparse : Target.parse request.addr = .ok target)
    {es before after : List (CacheEvent γ)} {e : CacheEvent γ}
    (hrun : .start (.dial request) :: es = before ++ e :: after) {host : String}
    {addresses : List String}
    (hlookup : (s.after before).lookedUp? e = some (s.nextTask, host, .ok addresses))
    (hc : request.token ∉ (s.after (before ++ e :: after)).cancelled)
    (habort : .abort s.nextTask ∉ es) :
    host = target.host
      ∧ FailsOver request
        (candidates addresses (request.order addresses.length) target.port)
        (outcomesOf s.nextTask after)
        (connectsOf s.nextTask (s.effects (before ++ e :: after)))
        (resultsOf s.nextTask (s.effects (before ++ e :: after))) := by
  have hn := hs.numbered
  have hn₀ := hn.after before
  have hc₀ : request.token ∉ s.cancelled := fun hm => hc (hn.cancelled_after _ hm)
  have hsought : s.sought? (.dial request) = some (target.host, .dial request target.port) := by
    simp [sought?, hparse, isCancelled, hc₀]
  rw [after_append] at hc
  obtain ⟨rfl, hlt, hnothing, s', said, hsome, hstep, hsaid⟩ := nothing_before_lookedUp hn hsought
    hrun hlookup (fun hm => hc (hn₀.cancelled_after (e :: after) hm)) habort
  refine ⟨rfl, ?_⟩
  have habort' : .abort s.nextTask ∉ after := fun hm => by
    have hm : .abort s.nextTask ∈ .start (.dial request) :: es := by
      rw [hrun]
      exact List.mem_append_right _ (List.mem_cons_of_mem _ hm)
    exact habort (List.mem_of_ne_of_mem (by simp) hm)
  set r : Stepped γ := s'.reach s.nextTask target.host (.dial request target.port) (.ok addresses)
  have hfirst : ((s.after before).step e).1 = r.1 := by rw [hstep]
  have hn₁ : r.1.Numbered := hfirst ▸ hn₀.step e
  have hc₁ : request.token ∉ (r.1.after after).cancelled := hfirst ▸ hc
  have hreach := reach_dial (γ := γ) hsome target.host target.port addresses
    fun hm => hc₁ (hn₁.cancelled_after after hm)
  have heffects : s.effects (before ++ e :: after)
      = s.effects before ++ (said ++ (r.2 ++ r.1.effects after)) := by
    simp only [effects_append, effects, hstep, List.append_assoc]
  obtain ⟨hcalls, hends⟩ := connectsOf_eq_nil hnothing
  have hsaid' : ∀ effect ∈ said, effect.task? ≠ some s.nextTask :=
    fun effect hm => by simp [hsaid effect hm]
  obtain ⟨hcalls', hends'⟩ := connectsOf_eq_nil hsaid'
  simp only [heffects, connectsOf_append, resultsOf_append, hcalls, hends, hcalls', hends',
    List.nil_append]
  exact failsOver_after hn₁ (hfirst ▸ hlt) hreach habort' hc₁

/-- Of two addresses the second is tried first and fails; meanwhile the cache is cleared. -/
theorem CacheState.dial_fails_over_to_other :
    let s := CacheState.fresh .default ⟨0⟩
    let request : DialRequest := ⟨"tcp", "db:80", fun _ => [1, 7, 0], .single 0⟩
    let run : List (CacheEvent Unit) :=
      [.start (.dial request), .answer 0 (some (.ok ["10.0.0.1", "10.0.0.2"])) none, .clear,
        .outcome 0 (some (.error (noSuchHost "db"))) none, .outcome 0 (some (.ok ())) none]
    connectsOf 0 (s.effects run) = [("tcp", "10.0.0.2:80"), ("tcp", "10.0.0.1:80")]
      ∧ resultsOf 0 (s.effects run) = [.dialed (.ok ())] := by
  intro s request run
  have hchars : Target.ofChars request.addr.toList = .ok ⟨"db", 80⟩ := by decide +kernel
  have hparse : Target.parse request.addr = .ok ⟨"db", 80⟩ := by
    rw [Target.parse, hchars]
  have hleft : candidates ["10.0.0.1", "10.0.0.2"] [1, 7, 0] 80
    = ["10.0.0.2:80", "10.0.0.1:80"] := by decide +kernel
  have hsought : s.sought? (.dial request) = some ("db", .dial request 80) := by
    simp [sought?, hparse, isCancelled, s, fresh]
  have hstart : s.after (run.take 1)
      = ({ s with nextTask := 1 }.lookUp 0 "db" (.dial request 80) : Stepped Unit).1 :=
    congrArg Prod.fst (start_of_sought hsought)
  have hlookup : (s.after (run.take 1)).lookedUp?
      (.answer 0 (some (.ok ["10.0.0.1", "10.0.0.2"])) none : CacheEvent Unit)
        = some (0, "db", .ok ["10.0.0.1", "10.0.0.2"]) := by
    rw [hstart]
    rfl
  have hnone : (s.after run).cancelled = [] := by decide +kernel
  have hc : request.token ∉ (s.after run).cancelled := by
    rw [hnone]
    exact List.not_mem_nil
  have hrun : .start (.dial request) :: run.tail
      = run.take 1 ++ .answer 0 (some (.ok ["10.0.0.1", "10.0.0.2"])) none :: run.drop 2 := rfl
  obtain ⟨-, hconnects, -, htried, -⟩ :=
    dial_fails_over ⟨_, _, [], rfl⟩ hparse hrun hlookup hc (by simp [run])
  exact ⟨hconnects.trans (congrArg (fun left => (left.take 2).map (request.network, ·)) hleft),
    htried (by rw [show candidates _ _ _ = _ from hleft]; exact Nat.one_lt_two)⟩

end HostDialing

import HostDialing.Proofs.Dial.Cancellation

/-!
# Dials beside one another

Of a run in which dials of known hosts interleave, what concerns one dial is a run of its own
(`CacheState.alone`): the events that are its own, and the cancellation of its token where that
falls between them. The dial does the same in both (`CacheState.dial_alone`), so neither the other
dials nor their cancellations reach it, and the entries are as they were.

What a step does for a dial depends on its task, its token and the entries alone: on two states that
agree in these it does the same, under whichever number the dial has there (`Stepped.Alike`).
-/

namespace HostDialing

variable {γ : Type}

def CacheEvent.renumbered (id : Nat) : CacheEvent γ → CacheEvent γ
  | .outcome _ given cancels => .outcome id given cancels
  | .abort _ => .abort id
  | e => e

def CacheEffect.renumbered (id : Nat) : CacheEffect γ → CacheEffect γ
  | .order _ count => .order id count
  | .connect _ network candidate => .connect id network candidate
  | .finished _ result => .finished id result
  | effect => effect

/-- What is done in the name of a task, under another number. -/
def effectsOf (id id' : Nat) (effects : List (CacheEffect γ)) : List (CacheEffect γ) :=
  (effects.filter (·.task? = some id)).map (CacheEffect.renumbered id')

/-- The step is one of dials whose hosts are known, or time passes. -/
def CacheState.OfDials (s : CacheState) : CacheEvent γ → Prop
  | .start (.dial request) =>
    ∀ target, Target.parse request.addr = .ok target → target.host ∈ s.entries.hosts
  | .outcome _ _ _ => True
  | .cancel _ => True
  | .abort _ => True
  | .elapse _ => True
  | _ => False

/-- What of a step concerns a dial, which has the number `id'` when it runs alone. -/
def CacheState.own (s : CacheState) (id id' : Nat) (token : Token) (e : CacheEvent γ) :
    List (CacheEvent γ) :=
  if s.subject? e = some id then [e.renumbered id']
  else if token ∉ s.cancelled ∧ token ∈ (s.step e).1.cancelled then [.cancel token]
  else []

/-- What of a run concerns a dial. -/
def CacheState.alone (s : CacheState) (id id' : Nat) (token : Token) :
    List (CacheEvent γ) → List (CacheEvent γ)
  | [] => []
  | e :: es => s.own id id' token e ++ (s.step e).1.alone id id' token es

/-- A connector that goes by network and address alone gives the dial the outcomes of its calls. -/
def CacheState.Serves (s : CacheState) (connect : String → String → Except IoError γ) (id : Nat)
    (es : List (CacheEvent γ)) : Prop :=
  outcomesOf id es <+: (connectsOf id (s.effects es)).map fun call => connect call.1 call.2

theorem CacheState.alone_append (id id' : Nat) (token : Token) (es es' : List (CacheEvent γ)) :
    ∀ s : CacheState, s.alone id id' token (es ++ es')
      = s.alone id id' token es ++ (s.after es).alone id id' token es' := by
  induction es with
  | nil => exact fun s => rfl
  | cons e es ih =>
    intro s
    simp only [List.cons_append, alone, after, ih, List.append_assoc]

theorem effectsOf_append (id id' : Nat) (l l' : List (CacheEffect γ)) :
    effectsOf id id' (l ++ l') = effectsOf id id' l ++ effectsOf id id' l' := by
  simp [effectsOf]

theorem effectsOf_eq_nil {id id' : Nat} {effects : List (CacheEffect γ)}
    (h : ∀ effect ∈ effects, effect.task? ≠ some id) : effectsOf id id' effects = [] := by
  have hnil : effects.filter (·.task? = some id) = [] :=
    List.filter_eq_nil_iff.2 fun effect hm => by simpa using h effect hm
  rw [effectsOf, hnil, List.map_nil]

theorem connectsOf_effectsOf (id id' : Nat) (effects : List (CacheEffect γ)) :
    connectsOf id' (effectsOf id id' effects) = connectsOf id effects
      ∧ resultsOf id' (effectsOf id id' effects) = resultsOf id effects := by
  unfold effectsOf connectsOf resultsOf
  rw [List.filterMap_map, List.filterMap_filter, List.filterMap_map, List.filterMap_filter]
  constructor
  all_goals
    refine List.filterMap_congr fun effect _ => ?_
    by_cases h : effect.task? = some id
    · cases effect <;> simp_all [CacheEffect.task?, CacheEffect.renumbered]
    · cases effect <;> simp_all [CacheEffect.task?]

/-- Two runs have come to the same for a dial, which has one number in the one and another in the
other. The second does nothing but for the dial. -/
structure Stepped.Alike (id id' : Nat) (request : DialRequest) (r r' : Stepped γ) : Prop where
  task : r.1.task? id = r'.1.task? id'
  /-- The dial does not wait for a lookup. -/
  attempting : ∀ t, r.1.task? id = some t → ∃ attempts, t = .attempting request attempts
  cancelled : request.token ∈ r.1.cancelled ↔ request.token ∈ r'.1.cancelled
  effects : effectsOf id id' r.2 = r'.2

section alike

variable {id id' : Nat} {request : DialRequest} {s s' t t' : CacheState}

theorem Stepped.Alike.append {r r' q q' : Stepped γ} (h : Alike id id' request r r')
    (hq : Alike id id' request q q') :
    Alike id id' request (q.1, r.2 ++ q.2) (q'.1, r'.2 ++ q'.2) where
  task := hq.task
  attempting := hq.attempting
  cancelled := hq.cancelled
  effects := by rw [effectsOf_append, h.effects, hq.effects]

theorem Stepped.Alike.state {r r' : Stepped γ} (h : Alike id id' request r r') :
    Alike (γ := γ) id id' request (r.1, []) (r'.1, []) :=
  ⟨h.task, h.attempting, h.cancelled, rfl⟩

/-- A dial that ends. -/
theorem Stepped.Alike.remove (hc : request.token ∈ s.cancelled ↔ request.token ∈ t.cancelled)
    (result : TaskResult γ) :
    Alike id id' request (s.removeTask id, [.finished id result])
      (t.removeTask id', [.finished id' result]) where
  task := by rw [s.task?_removeTask_self, t.task?_removeTask_self]
  attempting := by simp [s.task?_removeTask_self]
  cancelled := hc
  effects := by simp [effectsOf, CacheEffect.task?, CacheEffect.renumbered]

theorem Stepped.Alike.attemptNext (hs : (s.task? id).isSome) (ht : (t.task? id').isSome)
    (hc : request.token ∈ s.cancelled ↔ request.token ∈ t.cancelled) (attempts : Attempts) :
    Alike id id' request (s.attemptNext id request attempts : Stepped γ)
      (t.attemptNext id' request attempts) := by
  have hcancelled : t.isCancelled request.token = s.isCancelled request.token := by
    simp [CacheState.isCancelled, hc]
  unfold CacheState.attemptNext
  rw [hcancelled]
  split
  · exact .remove hc _
  · refine ⟨?_, fun waiting h => ?_, hc, by simp [effectsOf, CacheEffect.task?,
      CacheEffect.renumbered]⟩
    · rw [CacheState.task?_setTask_self _ hs, CacheState.task?_setTask_self _ ht]
    · rw [CacheState.task?_setTask_self _ hs] at h
      exact ⟨_, (Option.some.inj h).symm⟩

theorem Stepped.Alike.idle (h : Alike (γ := γ) id id' request (s, []) (t, []))
    (hs : s'.tasks = s.tasks) (ht : t'.tasks = t.tasks)
    (hc : request.token ∈ s'.cancelled ↔ request.token ∈ t'.cancelled) :
    Alike (γ := γ) id id' request (s', []) (t', []) where
  task := by
    have := h.task
    simpa only [CacheState.task?, hs, ht] using this
  attempting := by
    have := h.attempting
    simpa only [CacheState.task?, hs] using this
  cancelled := hc
  effects := rfl

end alike

theorem CacheState.mem_cancelBy (s : CacheState) (hasCome : Bool) (cancels : Option Token)
    (token : Token) : token ∈ (s.cancelBy hasCome cancels).cancelled
      ↔ hasCome = true ∧ cancels = some token ∨ token ∈ s.cancelled := by
  rcases hasCome with _ | _
  · simp [cancelBy]
  · rcases cancels with _ | other
    · simp [cancelBy]
    · simp [cancelBy, cancel, eq_comm]

theorem CacheState.tasks_cancelBy (s : CacheState) (hasCome : Bool) (cancels : Option Token) :
    (s.cancelBy hasCome cancels).tasks = s.tasks := by
  obtain ⟨cancelled, -, h⟩ := s.cancelBy_eq hasCome cancels
  rw [h]

theorem CacheState.step_outcome_of_gone {s : CacheState} {id : Nat} (h : s.task? id = none)
    (outcome : Option (Except IoError γ)) (cancels : Option Token) :
    s.step (.outcome id outcome cancels) = (s, []) := by
  simp only [step, takeOutcome, h]

theorem CacheState.step_outcome_of_attempting {s : CacheState} {id : Nat} {request : DialRequest}
    {attempts : Attempts} (h : s.task? id = some (.attempting request attempts))
    (hc : request.token ∉ s.cancelled) (outcome : Option (Except IoError γ))
    (cancels : Option Token) :
    s.step (.outcome id outcome cancels) =
      match outcome with
      | none => (s.cancelBy false cancels, [])
      | some (.ok connection) =>
        ((s.cancelBy true cancels).removeTask id, [.finished id (.dialed (.ok connection))])
      | some (.error error) =>
        (s.cancelBy true cancels).attemptNext id request (attempts.failed error) := by
  have hc : ¬ s.isCancelled request.token := by simpa [isCancelled] using hc
  simp only [step, takeOutcome, h, if_neg hc]
  rcases outcome with _ | error | connection <;> rfl

section step

variable {id id' : Nat} {request : DialRequest} {s t : CacheState}

/-- The dial looks for the outcome of its attempt. -/
theorem Stepped.Alike.outcome (h : Alike (γ := γ) id id' request (s, []) (t, []))
    (given : Option (Except IoError γ)) (cancels : Option Token) :
    Alike id id' request (s.step (.outcome id given cancels))
      (t.step (.outcome id' given cancels)) := by
  have htask : s.task? id = t.task? id' := h.task
  rcases hs : s.task? id with _ | waiting
  · rw [CacheState.step_outcome_of_gone hs,
      CacheState.step_outcome_of_gone (htask.symm.trans hs)]
    exact h
  obtain ⟨attempts, rfl⟩ := h.attempting _ hs
  have ht := htask.symm.trans hs
  have hcancelled : request.token ∈ s.cancelled ↔ request.token ∈ t.cancelled := h.cancelled
  by_cases hc : request.token ∈ s.cancelled
  · rw [CacheState.step_outcome_cancelled hs hc,
      CacheState.step_outcome_cancelled ht (hcancelled.1 hc)]
    exact .remove hcancelled _
  rw [CacheState.step_outcome_of_attempting hs hc,
    CacheState.step_outcome_of_attempting ht fun hm => hc (hcancelled.2 hm)]
  have hcome : ∀ hasCome, request.token ∈ (s.cancelBy hasCome cancels).cancelled
      ↔ request.token ∈ (t.cancelBy hasCome cancels).cancelled := by
    intro hasCome
    rw [CacheState.mem_cancelBy, CacheState.mem_cancelBy, hcancelled]
  rcases given with _ | error | connection
  · exact h.idle rfl rfl hcancelled
  · refine .attemptNext ?_ ?_ (hcome true) _
    · rw [CacheState.task?, CacheState.tasks_cancelBy]
      exact Option.isSome_of_mem hs
    · rw [CacheState.task?, CacheState.tasks_cancelBy]
      exact Option.isSome_of_mem ht
  · exact .remove (hcome true) _

theorem Stepped.Alike.abort (h : Alike (γ := γ) id id' request (s, []) (t, [])) :
    Alike (γ := γ) id id' request (s.step (.abort id)) (t.step (.abort id')) where
  task := (s.task?_removeTask_self id).trans (t.task?_removeTask_self id').symm
  attempting waiting hw := by
    have := (s.task?_removeTask_self id).symm.trans hw
    simp at this
  cancelled := h.cancelled
  effects := rfl

/-- A step of another task, in which the token may be cancelled. -/
theorem Stepped.Alike.beside (h : Alike (γ := γ) id id' request (s, []) (t, []))
    (hn : s.Numbered) {e : CacheEvent γ} (he : s.subject? e ≠ some id) :
    Alike id id' request (s.step e) (t.after (s.own id id' request.token e),
      t.effects (s.own id id' request.token e)) := by
  obtain ⟨hothers, hnamed⟩ := s.step_only e
  have htask : (s.step e).1.task? id = s.task? id := hothers id he
  have hnothing : effectsOf id id' (s.step e).2 = [] :=
    effectsOf_eq_nil fun effect hm htask => he (hnamed effect hm id htask)
  have hcancelled : request.token ∈ s.cancelled ↔ request.token ∈ t.cancelled := h.cancelled
  have hkept : request.token ∈ s.cancelled → request.token ∈ (s.step e).1.cancelled :=
    fun hm => hn.cancelled_after [e] hm
  rw [CacheState.own, if_neg he]
  split_ifs with hc
  · exact ⟨htask.trans h.task, fun waiting hw => h.attempting waiting (htask.symm.trans hw),
      iff_of_true hc.2 List.mem_cons_self, hnothing⟩
  · refine ⟨htask.trans h.task, fun waiting hw => h.attempting waiting (htask.symm.trans hw),
      ?_, hnothing⟩
    rw [CacheState.after, ← hcancelled]
    exact ⟨fun hm => by_contra fun hnot => hc ⟨hnot, hm⟩, hkept⟩

/-- Any step but the one that starts the dial. -/
theorem Stepped.Alike.step (h : Alike (γ := γ) id id' request (s, []) (t, []))
    (hn : s.Numbered) {s₀ : CacheState} {e : CacheEvent γ} (he : s₀.OfDials e)
    (hid : ∀ request, e = .start request → s.nextTask ≠ id) :
    Alike id id' request (s.step e) (t.after (s.own id id' request.token e),
      t.effects (s.own id id' request.token e)) := by
  by_cases hsub : s.subject? e = some id
  swap
  · exact h.beside hn hsub
  rw [CacheState.own, if_pos hsub, CacheState.after_singleton, CacheState.effects_singleton]
  rcases e with started | ⟨call, given, cancels⟩ | ⟨task, given, cancels⟩ | token | task
    | _ | _ | _ | hosts | nanos
  case start => exact absurd (Option.some.inj hsub) (hid _ rfl)
  case answer => exact he.elim
  case outcome =>
    obtain rfl : task = id := Option.some.inj hsub
    exact h.outcome given cancels
  case abort =>
    obtain rfl : task = id := Option.some.inj hsub
    exact h.abort
  all_goals simp [CacheState.subject?] at hsub

theorem Stepped.Alike.run {s₀ : CacheState} {es : List (CacheEvent γ)}
    (hes : ∀ e ∈ es, s₀.OfDials e) :
    ∀ {s t : CacheState}, Alike (γ := γ) id id' request (s, []) (t, []) → s.Numbered →
      (∀ before started after, es = before ++ .start started :: after →
        (s.after before).nextTask ≠ id) →
      Alike id id' request (s.after es, s.effects es)
        (t.after (s.alone id id' request.token es),
          t.effects (s.alone id id' request.token es)) := by
  induction es with
  | nil => exact fun h _ _ => h
  | cons e es ih =>
    intro s t h hn hid
    have hstep := h.step hn (hes e List.mem_cons_self)
      fun started he => hid [] started es (congrArg (· :: es) he)
    have hrest := ih (fun e' hm => hes e' (List.mem_cons_of_mem _ hm)) hstep.state (hn.step e)
      fun before started after hsplit => hid (e :: before) started after (congrArg (e :: ·) hsplit)
    have := hstep.append hrest
    rwa [← CacheState.after_append, ← CacheState.effects_append] at this

theorem Stepped.Alike.reach (hs : (s.task? id).isSome) (ht : (t.task? id').isSome)
    (hc : request.token ∈ s.cancelled ↔ request.token ∈ t.cancelled) (host : String)
    (port : UInt16) (addresses : List String) :
    Alike (γ := γ) id id' request (s.reach id host (.dial request port) (.ok addresses))
      (t.reach id' host (.dial request port) (.ok addresses)) := by
  have h := attemptNext (γ := γ) hs ht hc
    (.begin (candidates addresses (request.order addresses.length) port))
  refine ⟨h.task, h.attempting, h.cancelled, ?_⟩
  have hordered : effectsOf (γ := γ) id id' [.order id addresses.length]
      = [.order id' addresses.length] := by
    simp [effectsOf, CacheEffect.task?, CacheEffect.renumbered]
  have := effectsOf_append id id' [.order id addresses.length] (s.attemptNext id request
    (.begin (candidates addresses (request.order addresses.length) port)) : Stepped γ).2
  rw [h.effects, hordered] at this
  exact this

/-- The step that starts the dial: its host is known, and by the same addresses. -/
theorem Stepped.Alike.start (hs : s.Numbered) (ht : t.Numbered) (hentries : t.entries = s.entries)
    (hc : request.token ∈ s.cancelled ↔ request.token ∈ t.cancelled)
    (hknown : ∀ target, Target.parse request.addr = .ok target →
      ∃ addresses, s.entries.known? target.host = some addresses) :
    Alike (γ := γ) s.nextTask t.nextTask request (s.step (.start (.dial request)))
      (t.step (.start (.dial request))) := by
  have hends : ∀ error : DialError, Alike (γ := γ) s.nextTask t.nextTask request
      ({ s with nextTask := s.nextTask + 1 }, [.finished s.nextTask (.dialed (.error error))])
      ({ t with nextTask := t.nextTask + 1 }, [.finished t.nextTask (.dialed (.error error))]) :=
    fun error => {
      task := hs.task?_nextTask.trans ht.task?_nextTask.symm
      attempting := fun waiting hw => by
        have := hs.task?_nextTask.symm.trans hw
        simp at this
      cancelled := hc
      effects := by simp [effectsOf, CacheEffect.task?, CacheEffect.renumbered] }
  rcases hparse : Target.parse request.addr with error | target
  · rw [s.step_start_unparsed hparse, t.step_start_unparsed hparse]
    exact hends error
  by_cases hm : request.token ∈ s.cancelled
  · rw [CacheState.step_start_cancelled hparse hm, CacheState.step_start_cancelled hparse (hc.1 hm)]
    exact hends _
  obtain ⟨addresses, hk⟩ := hknown target hparse
  have hsought := (s.sought?_dial hparse).trans (if_neg hm)
  have hsought' := (t.sought?_dial hparse).trans (if_neg fun hm' => hm (hc.2 hm'))
  have hk' : t.entries.known? target.host = some addresses := by rw [hentries, hk]
  simp only [CacheState.step, CacheState.start_of_sought hsought,
    CacheState.start_of_sought hsought', CacheState.lookUp, hk, hk']
  refine reach ?_ ?_ ?_ _ _ _
  · exact Option.isSome_of_mem (CacheState.task?_addTask_self
      (s := { s with nextTask := s.nextTask + 1 }) _ hs.task?_nextTask)
  · exact Option.isSome_of_mem (CacheState.task?_addTask_self
      (s := { t with nextTask := t.nextTask + 1 }) _ ht.task?_nextTask)
  · exact hc

end step

theorem CacheState.OfDials.entries_step {s₀ s : CacheState} {e : CacheEvent γ}
    (h : s₀.OfDials e) : (s.step e).1.entries = s.entries := by
  have hclear : e ≠ .clear := by
    rintro rfl
    exact h
  have hended : s.ended? e = none := by
    rcases hended : s.ended? e with _ | ended
    · rfl
    · obtain ⟨call, answer, cancels, rfl⟩ := answer_of_ended hended
      exact h.elim
  rw [s.step_entries e hclear, hended]

theorem CacheState.entries_of_dials {s₀ : CacheState} {es : List (CacheEvent γ)}
    (hes : ∀ e ∈ es, s₀.OfDials e) : ∀ s : CacheState, (s.after es).entries = s.entries := by
  induction es with
  | nil => exact fun s => rfl
  | cons e es ih =>
    intro s
    have hstep : (s.step e).1.entries = s.entries := (hes e List.mem_cons_self).entries_step
    rw [after, ih (fun e' hm => hes e' (List.mem_cons_of_mem _ hm)), hstep]

/-- An event of the dial alone, once it has started. -/
def CacheEvent.Concerns (id : Nat) (token : Token) (e : CacheEvent γ) : Prop :=
  e = .cancel token ∨ e = .abort id ∨ ∃ given cancels, e = .outcome id given cancels

theorem CacheEvent.Concerns.nextTask_step {id : Nat} {token : Token} {e : CacheEvent γ}
    (h : e.Concerns id token) (s : CacheState) : (s.step e).1.nextTask = s.nextTask := by
  rcases h with rfl | rfl | ⟨given, cancels, rfl⟩
  · rfl
  · rfl
  · obtain ⟨cancelled, -, h | ⟨result, h⟩ | ⟨request, attempts, h⟩⟩ :=
      s.outcome_cases id given cancels
    · rw [h]
    · rw [h]
      rfl
    · rw [h, (Stepped.Drops.attemptNext _ id request attempts).state]

theorem CacheEvent.Concerns.ofDials {id : Nat} {token : Token} {e : CacheEvent γ}
    (h : e.Concerns id token) (s : CacheState) : s.OfDials e := by
  rcases h with rfl | rfl | ⟨given, cancels, rfl⟩ <;> trivial

theorem CacheState.nextTask_of_concerns {id : Nat} {token : Token} {es : List (CacheEvent γ)}
    (hes : ∀ e ∈ es, e.Concerns id token) :
    ∀ s : CacheState, (s.after es).nextTask = s.nextTask := by
  induction es with
  | nil => exact fun s => rfl
  | cons e es ih =>
    intro s
    rw [after, ih fun e' hm => hes e' (List.mem_cons_of_mem _ hm)]
    exact (hes e List.mem_cons_self).nextTask_step s

/-- What concerns the dial, beside its start. -/
theorem CacheState.concerns_own {s s₀ : CacheState} {id id' : Nat} {token : Token}
    {e : CacheEvent γ} (he : s₀.OfDials e)
    (hid : ∀ request, e = .start request → s.nextTask ≠ id) :
    ∀ a ∈ s.own id id' token e, a.Concerns id' token := by
  intro a hm
  unfold own at hm
  split_ifs at hm with hsub hc
  · obtain rfl := List.mem_singleton.1 hm
    rcases e with started | ⟨call, given, cancels⟩ | ⟨task, given, cancels⟩ | token | task
      | _ | _ | _ | hosts | nanos
    case start => exact absurd (Option.some.inj hsub) (hid _ rfl)
    case answer => exact he.elim
    case outcome => exact .inr (.inr ⟨given, cancels, rfl⟩)
    case abort => exact .inr (.inl rfl)
    all_goals simp [subject?] at hsub
  · exact .inl (List.mem_singleton.1 hm)
  · simp at hm

theorem CacheState.concerns_alone {s₀ : CacheState} {id id' : Nat} {token : Token}
    {es : List (CacheEvent γ)} (hes : ∀ e ∈ es, s₀.OfDials e) :
    ∀ {s : CacheState}, (∀ before started after, es = before ++ .start started :: after →
        (s.after before).nextTask ≠ id) →
      ∀ a ∈ s.alone id id' token es, a.Concerns id' token := by
  induction es with
  | nil => simp [alone]
  | cons e es ih =>
    intro s hid a hm
    rcases List.mem_append.1 hm with hm | hm
    · exact concerns_own (hes e List.mem_cons_self)
        (fun started he => hid [] started es (congrArg (· :: es) he)) a hm
    · refine ih (fun e' hm => hes e' (List.mem_cons_of_mem _ hm)) ?_ a hm
      exact fun before started after hsplit =>
        hid (e :: before) started after (congrArg (e :: ·) hsplit)

theorem CacheState.outcomesOf_own (s : CacheState) (id id' : Nat) (token : Token)
    (e : CacheEvent γ) : outcomesOf id' (s.own id id' token e) = outcomesOf id [e] := by
  unfold own
  split_ifs with hsub hc
  · rcases e with started | ⟨call, given, cancels⟩ | ⟨task, given, cancels⟩ | token | task
      | _ | _ | _ | hosts | nanos
    case outcome =>
      obtain rfl : task = id := Option.some.inj hsub
      rw [CacheEvent.renumbered, outcomesOf_cons, outcomesOf_cons]
      rfl
    all_goals rfl
  all_goals
    have he : ∀ given cancels, e ≠ .outcome id given cancels := by
      rintro given cancels rfl
      exact hsub rfl
    rw [outcomesOf_cons_of_ne he]
    rfl

theorem CacheState.outcomesOf_alone (id id' : Nat) (token : Token) (es : List (CacheEvent γ)) :
    ∀ s : CacheState, outcomesOf id' (s.alone id id' token es) = outcomesOf id es := by
  induction es with
  | nil => exact fun s => rfl
  | cons e es ih =>
    intro s
    have happend : ∀ l l' : List (CacheEvent γ), ∀ n,
        outcomesOf n (l ++ l') = outcomesOf n l ++ outcomesOf n l' :=
      fun l l' n => List.filterMap_append
    rw [alone, happend, ih, outcomesOf_own, ← happend]
    rfl

theorem CacheState.nextTask_lt_of_start {s : CacheState} (hn : s.Numbered)
    (before after : List (CacheEvent γ)) (request : DialRequest) :
    (s.after before).nextTask < (s.after (before ++ .start (.dial request) :: after)).nextTask := by
  have hb := hn.after before
  rw [after_append]
  refine Nat.lt_of_lt_of_le ?_ ((hb.step (.start (.dial request))).nextTask_after after)
  rw [nextTask_of_dial _ hb]
  exact Nat.lt_succ_self _

/-- Before a dial starts nothing has its number. -/
theorem CacheState.OfDials.not_started {s₀ s : CacheState} (hn : s.Numbered)
    {es : List (CacheEvent γ)} (hes : ∀ e ∈ es, s₀.OfDials e) :
    ∀ before started after, es = before ++ .start started :: after →
      (s.after before).nextTask ≠ (s.after es).nextTask := by
  rintro before started after rfl
  have hdial : s₀.OfDials (.start started : CacheEvent γ) := hes _ (by simp)
  rcases started with host | host | ⟨host, order⟩ | request | hosts
  case dial => exact Nat.ne_of_lt (nextTask_lt_of_start hn before after request)
  all_goals exact hdial.elim

theorem CacheState.alone_start {s : CacheState} {id : Nat} (before after : List (CacheEvent γ))
    (hid : (s.after before).nextTask = id) (id' : Nat) (token : Token) (request : Request) :
    s.alone id id' token (before ++ .start request :: after)
      = s.alone id id' token before ++ .start request
        :: ((s.after before).step (.start request : CacheEvent γ)).1.alone id id' token after := by
  have hown : (s.after before).own id id' token (.start request : CacheEvent γ)
      = [.start request] := if_pos (congrArg some hid)
  rw [alone_append, alone, hown]
  rfl

/-- Dials of known hosts do not disturb each other, however their steps interleave and whichever of
them are cancelled: each does what it does alone, with the same outcomes of its attempts, as the
same connector gives them, and with its token cancelled between the same steps of its own. The
entries are as before. -/
theorem CacheState.dial_alone {s : CacheState} (hs : s.Reachable γ) {es : List (CacheEvent γ)}
    (hes : ∀ e ∈ es, s.OfDials e) {before after : List (CacheEvent γ)} {request : DialRequest}
    (hrun : es = before ++ .start (.dial request) :: after) :
    let id := (s.after before).nextTask
    let alone := s.alone id s.nextTask request.token es
    (∃ own own', alone = own ++ .start (.dial request) :: own'
        ∧ ∀ e ∈ own ++ own', e.Concerns s.nextTask request.token)
      ∧ outcomesOf s.nextTask alone = outcomesOf id es
      ∧ (∀ connect, s.Serves connect id es ↔ s.Serves connect s.nextTask alone)
      ∧ connectsOf id (s.effects es) = connectsOf s.nextTask (s.effects alone)
      ∧ resultsOf id (s.effects es) = resultsOf s.nextTask (s.effects alone)
      ∧ effectsOf id s.nextTask (s.effects es) = s.effects alone
      ∧ (s.after es).entries = s.entries := by
  intro id alone
  have hn := hs.numbered
  have hbefore : ∀ e ∈ before, s.OfDials e := fun e hm =>
    hes e (hrun ▸ List.mem_append_left _ hm)
  have hafter : ∀ e ∈ after, s.OfDials e := fun e hm =>
    hes e (hrun ▸ List.mem_append_right _ (List.mem_cons_of_mem _ hm))
  have hstarted : s.OfDials (.start (.dial request) : CacheEvent γ) :=
    hes _ (hrun ▸ List.mem_append_right _ List.mem_cons_self)
  have hn₀ := hn.after before
  set t := ((s.after before).step (.start (.dial request) : CacheEvent γ)).1
  have hlt : id < t.nextTask := by
    rw [nextTask_of_dial _ hn₀]
    exact Nat.lt_succ_self _
  have hnot := OfDials.not_started hn hbefore
  have hnot' : ∀ b started a, after = b ++ .start started :: a → (t.after b).nextTask ≠ id :=
    fun b started a _ => (Nat.lt_of_lt_of_le hlt ((hn₀.step _).nextTask_after b)).ne'
  have hown : ∀ e ∈ s.alone id s.nextTask request.token before,
      e.Concerns s.nextTask request.token := concerns_alone hbefore hnot
  have hown' : ∀ e ∈ t.alone id s.nextTask request.token after,
      e.Concerns s.nextTask request.token := concerns_alone hafter hnot'
  have halone : alone = s.alone id s.nextTask request.token before ++ .start (.dial request)
      :: t.alone id s.nextTask request.token after := by
    simp only [alone, hrun]
    exact alone_start before after rfl _ _ _
  set own := s.alone id s.nextTask request.token before
  set own' := t.alone id s.nextTask request.token after
  have hgone : s.task? id = none := task?_eq_none fun hm =>
    Nat.lt_irrefl _ (Nat.lt_of_lt_of_le (hn.ids_lt _ hm) (hn.nextTask_after _))
  have hfirst : Stepped.Alike (γ := γ) id s.nextTask request (s, []) (s, []) :=
    ⟨hgone.trans hn.task?_nextTask.symm, by simp [hgone], Iff.rfl, rfl⟩
  have hearlier := hfirst.run hbefore hn hnot
  have hentries : (s.after own).entries = (s.after before).entries := by
    rw [entries_of_dials (fun e hm => (hown e hm).ofDials s) s, entries_of_dials hbefore s]
  have hknown : ∀ target, Target.parse request.addr = .ok target →
      ∃ addresses, (s.after before).entries.known? target.host = some addresses := by
    intro target hparse
    rw [entries_of_dials hbefore s]
    exact hs.known_of_mem (hstarted target hparse)
  have hstart := Stepped.Alike.start (γ := γ) hn₀ (hn.after own) hentries hearlier.cancelled hknown
  rw [nextTask_of_concerns hown s] at hstart
  have hlater := hstart.state.run hafter (hn₀.step _) hnot'
  have heffects : effectsOf id s.nextTask (s.effects es) = s.effects alone := by
    rw [hrun, halone, effects_append, effects_append]
    exact (hearlier.append (hstart.append hlater)).effects
  obtain ⟨hconnects, hresults⟩ := connectsOf_effectsOf id s.nextTask (s.effects es)
  rw [heffects] at hconnects hresults
  have houtcomes : outcomesOf s.nextTask alone = outcomesOf id es := outcomesOf_alone _ _ _ es s
  have hserves : ∀ connect, s.Serves connect id es ↔ s.Serves connect s.nextTask alone := by
    intro connect
    rw [Serves, Serves, houtcomes, hconnects]
  refine ⟨⟨own, own', halone, fun e hm => ?_⟩, houtcomes, hserves, hconnects.symm, hresults.symm,
    heffects, entries_of_dials hes s⟩
  rcases List.mem_append.1 hm with hm | hm
  · exact hown e hm
  · exact hown' e hm

/-- Two dials of one host by turns; the second is cancelled during its second attempt. -/
theorem CacheState.dial_alone_of_two :
    let known := (CacheState.fresh .default ⟨0⟩).after (γ := Unit)
      [.start (.lookup "db"), .answer 0 (some (.ok ["10.0.0.1", "10.0.0.2"])) none]
    let first : DialRequest := ⟨"tcp", "db:80", listedOrder, .single 0⟩
    let second : DialRequest := ⟨"tcp", "db:80", listedOrder, .single 1⟩
    let es : List (CacheEvent Unit) :=
      [.start (.dial first), .start (.dial second),
        .outcome 1 (some (.error (noSuchHost "a"))) none,
        .outcome 2 (some (.error (noSuchHost "b"))) none, .cancel (.single 1),
        .outcome 1 (some (.ok ())) none, .outcome 2 (some (.ok ())) none]
    let alone := known.alone 2 1 second.token es
    connectsOf 1 (known.effects alone) = [("tcp", "10.0.0.1:80"), ("tcp", "10.0.0.2:80")]
      ∧ resultsOf 1 (known.effects alone) = resultsOf 2 (known.effects es)
      ∧ known.entries = (known.after es).entries := by
  intro known first second es alone
  have hhosts : known.entries.hosts = ["db"] := by decide +kernel
  have hchars : Target.ofChars "db:80".toList = .ok ⟨"db", 80⟩ := by decide +kernel
  have hparse : Target.parse "db:80" = .ok ⟨"db", 80⟩ := by rw [Target.parse, hchars]
  have hdial : ∀ token,
      known.OfDials (.start (.dial ⟨"tcp", "db:80", listedOrder, token⟩) : CacheEvent Unit) := by
    intro token target h
    obtain rfl : (⟨"db", 80⟩ : Target) = target := Except.ok.inj (hparse.symm.trans h)
    rw [hhosts]
    exact List.mem_singleton_self _
  have hes : ∀ e ∈ es, known.OfDials e := by
    simp only [es, List.forall_mem_cons]
    exact ⟨hdial _, hdial _, trivial, trivial, trivial, trivial, trivial, by simp⟩
  have hrun : es = [.start (.dial first)] ++ .start (.dial second) :: es.drop 2 := rfl
  have hknown : known.Reachable Unit := ⟨.default, ⟨0⟩, _, rfl⟩
  obtain ⟨-, -, -, hconnects, hresults, -, hentries⟩ := dial_alone hknown hes hrun
  have hid : (known.after (γ := Unit) [.start (.dial first)]).nextTask = 2 := by decide +kernel
  have hnext : known.nextTask = 1 := by decide +kernel
  rw [hid, hnext] at hconnects hresults
  have hcalls : connectsOf 2 (known.effects es)
    = [("tcp", "10.0.0.1:80"), ("tcp", "10.0.0.2:80")] := by decide +kernel
  exact ⟨hconnects.symm.trans hcalls, hresults.symm, hentries.symm⟩

end HostDialing

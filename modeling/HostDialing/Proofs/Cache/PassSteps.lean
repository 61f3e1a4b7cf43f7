import HostDialing.Proofs.Cache.Completion

/-!
# Steps of a pass

Whatever happens on a cache, a step can do three things to a pass (`CacheState.PassStep`): it passes
the pass by, or ends one of its questions and begins the next host in its place, or the pass is
given up (`CacheState.Carries.step`). What begins a pass is told by `CacheState.Begins.step`.
-/

namespace HostDialing

variable {γ : Type}

/-- The pass that a refresh waits for, or the background task. -/
def CacheState.passOf? (s : CacheState) : Option Nat → Option Pass
  | some id => (s.task? id).bind Task.pass?
  | none => s.background.pass?

/-- The refresh, or the background task, waits for a pass, or has none any more. -/
def CacheState.Carries (s : CacheState) (who : Option Nat) (p : Option Pass) : Prop :=
  match who with
  | some id => id < s.nextTask ∧ s.task? id = p.map .refreshing
  | none => s.background.pass? = p

/-- Somebody who waits for a pass gives it up: a refresh is aborted, the background task stopped. -/
def CacheEvent.GivesUp (who : Option Nat) : CacheEvent γ → Prop
  | abort task => who = some task
  | stop => who = none
  | _ => False

/-- The order in which a pass takes the hosts. -/
def CacheEvent.order : CacheEvent γ → List String
  | start (.refresh order) => order
  | tick order => order
  | _ => []

/-- The questions that a step asks for a pass. -/
def CacheState.askedIn (s : CacheState) (who : Option Nat) (e : CacheEvent γ) : List Flight :=
  if s.subject? e = who then asked (s.step e).2 else []

/-- The question of a pass that a step ends. -/
def CacheState.endedIn (s : CacheState) (who : Option Nat) (e : CacheEvent γ) : List Flight :=
  match s.ended? e with
  | some (owner, _) => if owner.id? = who then [owner.flight] else []
  | none => []

/-- The questions that were asked for a pass, in order. -/
def CacheState.askedFor (s : CacheState) (who : Option Nat) : List (CacheEvent γ) → List Flight
  | [] => []
  | e :: es => s.askedIn who e ++ (s.step e).1.askedFor who es

/-- The questions of a pass that have ended, in order. -/
def CacheState.endedFor (s : CacheState) (who : Option Nat) : List (CacheEvent γ) → List Flight
  | [] => []
  | e :: es => s.endedIn who e ++ (s.step e).1.endedFor who es

theorem CacheState.Carries.passOf? {s : CacheState} {who : Option Nat} {p : Option Pass}
    (h : s.Carries who p) : s.passOf? who = p := by
  rcases who with _ | id
  · exact h
  · rw [CacheState.passOf?, h.2]
    cases p <;> rfl

theorem CacheState.askedFor_concat (s : CacheState) (who : Option Nat)
    (run : List (CacheEvent γ)) (e : CacheEvent γ) :
    s.askedFor who (run ++ [e]) = s.askedFor who run ++ (s.after run).askedIn who e := by
  induction run generalizing s with
  | nil => exact List.append_nil _
  | cons e' run ih => simp only [List.cons_append, askedFor, after, ih, List.append_assoc]

theorem CacheState.endedFor_concat (s : CacheState) (who : Option Nat)
    (run : List (CacheEvent γ)) (e : CacheEvent γ) :
    s.endedFor who (run ++ [e]) = s.endedFor who run ++ (s.after run).endedIn who e := by
  induction run generalizing s with
  | nil => exact List.append_nil _
  | cons e' run ih => simp only [List.cons_append, endedFor, after, ih, List.append_assoc]

/-- What a step does to a pass that somebody waits for, or has waited for. -/
inductive CacheState.PassStep (s : CacheState) (who : Option Nat) (e : CacheEvent γ) :
    Option Pass → Prop
  | beside {p : Option Pass} (carries : (s.step e).1.Carries who p) (asked : s.askedIn who e = [])
    (ended : s.endedIn who e = []) (results : ∀ id ∈ who, resultsOf id (s.step e).2 = []) :
    PassStep s who e p
  | givenUp {p : Option Pass} (givesUp : e.GivesUp who) (carries : (s.step e).1.Carries who none)
    (asked : s.askedIn who e = []) (ended : s.endedIn who e = [])
    (results : ∀ id ∈ who, resultsOf id (s.step e).2 = []) : PassStep s who e p
  | ended {p : Pass} {f : Flight} (inFlight : f ∈ p.inFlight) (isReplaced : Bool) {q : Pass}
    (left : q = (p.finish f isReplaced).fill s.now s.settings.lookupTimeout s.nextCall)
    (carries : (s.step e).1.Carries who (if q.isDone then none else some q))
    (asked : s.askedIn who e
      = (p.finish f isReplaced).starting s.now s.settings.lookupTimeout s.nextCall)
    (ended : s.endedIn who e = [f])
    (results : ∀ id ∈ who, resultsOf id (s.step e).2
      = if q.isDone then [.refreshed q.replaced] else []) :
    PassStep s who e (some p)

/-- Nothing but time that passes moves the clock, and of other steps only a tick, a stop and the end
of a question of its own change the background task. -/
theorem CacheState.step_frame {s : CacheState} {e : CacheEvent γ}
    (helapse : ∀ nanos, e ≠ .elapse nanos) :
    (s.step e).1.now = s.now
      ∧ ((∀ order, e ≠ .tick order) → e ≠ .stop →
        (∀ owner answer, s.ended? e = some (owner, answer) → owner.id? ≠ none) →
          (s.step e).1.background = s.background) := by
  have keeps : ∀ {t : CacheState}, t.now = s.now → t.background = s.background →
      t.now = s.now ∧ ((∀ order, e ≠ .tick order) → e ≠ .stop →
        (∀ owner answer, s.ended? e = some (owner, answer) → owner.id? ≠ none) →
          t.background = s.background) := fun hn hb => ⟨hn, fun _ _ _ => hb⟩
  rcases e with request | ⟨call, given, cancels⟩ | ⟨task, outcome, cancels⟩ | token | task
    | _ | _ | _ | order | nanos
  case start =>
    rcases s.start_cases (γ := γ) request with ⟨host, goal, -, h⟩ | ⟨order, rfl⟩ | ⟨error, -, h⟩
    · rw [step, h]
      unfold lookUp
      simp only []
      split
      · rw [(Stepped.Drops.reach _ s.nextTask host goal _).state]
        exact keeps rfl rfl
      · exact keeps rfl rfl
    · rw [step, start_refresh, (keepRefresh_state (γ := γ) _ s.nextTask _).1]
      exact keeps rfl rfl
    · rw [step, h]
      exact keeps rfl rfl
  case answer =>
    rcases s.answer_cases (γ := γ) call given cancels with ⟨owner, a, cancelled, hend, -, -, hs⟩
      | ⟨cancelled, -, -, hs⟩ | ⟨id, goal, flight, error, -, -, -, hs⟩ <;> rw [hs]
    · rcases owner with ⟨id, goal, flight⟩ | ⟨id, pass, flight⟩ | ⟨ticker, pass, flight⟩
      · obtain ⟨said, -, h⟩ :=
          CacheState.endLookup_eq (γ := γ) { s with cancelled := cancelled } id goal flight a
        rw [conclude, h, (Stepped.Drops.reach _ id flight.host goal _).state]
        exact keeps rfl rfl
      · simp only [conclude]
        rw [(keepRefresh_state (γ := γ) _ id _).1]
        exact keeps rfl rfl
      · exact ⟨rfl, fun _ _ hended => absurd rfl (hended _ _ hend)⟩
    · exact keeps rfl rfl
    · exact keeps rfl rfl
  case outcome =>
    obtain ⟨cancelled, -, hs | ⟨result, hs⟩ | ⟨request, attempts, hs⟩⟩ :=
      s.outcome_cases task outcome cancels <;> rw [hs]
    · exact keeps rfl rfl
    · exact keeps rfl rfl
    · rw [(Stepped.Drops.attemptNext _ task request attempts).state]
      exact keeps rfl rfl
  case stop => exact ⟨rfl, fun _ hstop => absurd rfl hstop⟩
  case tick =>
    refine ⟨?_, fun htick => absurd rfl (htick order)⟩
    simp only [step, takeTick]
    split
    · split_ifs <;> rfl
    · rfl
  case elapse => exact absurd rfl (helapse nanos)
  all_goals exact keeps rfl rfl

theorem CacheState.background_beside {s : CacheState} {e : CacheEvent γ}
    (htick : ∀ order, e ≠ .tick order) (hstop : e ≠ .stop)
    (hended : ∀ owner answer, s.ended? e = some (owner, answer) → owner.id? ≠ none) :
    (s.step e).1.background = s.background := by
  by_cases helapse : ∃ nanos, e = .elapse nanos
  · obtain ⟨nanos, rfl⟩ := helapse
    rfl
  · exact (step_frame fun nanos he => helapse ⟨nanos, he⟩).2 htick hstop hended

/-- A question that ends for somebody who waits for a pass is one of that pass. -/
theorem CacheState.Carries.of_ended {s : CacheState} (hn : s.Numbered) {who : Option Nat}
    {p : Option Pass} (h : s.Carries who p) {e : CacheEvent γ} {owner : Owner}
    {answer : Option Answer} (hended : s.ended? e = some (owner, answer))
    (hid : owner.id? = who) :
    ∃ q, p = some q ∧ owner.flight ∈ q.inFlight ∧
      ((∃ id, who = some id ∧ owner = .refresh id q owner.flight)
        ∨ who = none ∧ ∃ ticker, s.background = .passing ticker q
          ∧ owner = .background ticker q owner.flight) := by
  have hw := waits_of_ended hended
  rcases owner with ⟨id, goal, flight⟩ | ⟨id, q, flight⟩ | ⟨ticker, q, flight⟩
  · obtain rfl : some id = who := hid
    have ht := h.2.symm.trans (hn.task?_of_mem hw)
    cases p <;> simp at ht
  · obtain rfl : some id = who := hid
    have ht := h.2.symm.trans (hn.task?_of_mem hw.1)
    obtain rfl : p = some q := by rcases p with _ | q' <;> simp_all
    exact ⟨q, rfl, hw.2, .inl ⟨id, rfl, rfl⟩⟩
  · obtain rfl : none = who := hid
    have hp : s.background.pass? = p := h
    obtain rfl : some q = p := by simpa [hw.1, Background.pass?] using hp
    exact ⟨q, rfl, hw.2, .inr ⟨rfl, ticker, hw.1, rfl⟩⟩

/-- A tick that begins no pass lets the background task be, or ends it with its cache. -/
theorem CacheState.takeTick_idle {s : CacheState} {order : List String}
    (h : ¬ s.Begins none (.tick order : CacheEvent γ)) :
    (s.takeTick order : Stepped γ).1.background.pass? = s.background.pass?
      ∧ (s.takeTick order : Stepped γ).2 = [] := by
  unfold takeTick
  split
  · rename_i ticker hb
    split_ifs with hdue halive
    · exact ⟨rfl, rfl⟩
    · rw [hb]
      exact ⟨rfl, rfl⟩
    · exact absurd ⟨rfl, ticker, hb, by simpa using hdue, by simpa using halive⟩ h
  · exact ⟨rfl, rfl⟩

/-- A step that neither begins nor stops a pass of the background task and ends no question of
it asks for nothing in nobody's name. -/
theorem CacheState.asked_beside {s : CacheState} {e : CacheEvent γ}
    (hbegins : ¬ s.Begins none e)
    (hended : ∀ owner answer, s.ended? e = some (owner, answer) → owner.id? ≠ none)
    (hs : s.subject? e = none) : asked (s.step e).2 = [] := by
  rcases e with request | ⟨call, given, cancels⟩ | ⟨task, outcome, cancels⟩ | token | task
    | _ | _ | _ | order | nanos
  case answer =>
    rcases s.answer_cases (γ := γ) call given cancels with ⟨owner, a, cancelled, hend, ho, -, -⟩
      | ⟨cancelled, -, -, h⟩ | ⟨id, goal, flight, error, -, ho, -, -⟩
    · simp only [subject?, ho, Option.bind_some] at hs
      exact absurd hs (hended owner a hend)
    · rw [h]
      rfl
    · simp [subject?, ho, Owner.id?] at hs
  case tick => rw [step, (takeTick_idle hbegins).2]; rfl
  all_goals first | rfl | simp [subject?] at hs

/-- A step in which nothing happens to a pass. -/
theorem CacheState.Carries.beside {s : CacheState} (hn : s.Numbered) {who : Option Nat}
    {p : Option Pass} (h : s.Carries who p) {e : CacheEvent γ} (hbegins : ¬ s.Begins who e)
    (hgives : ¬ e.GivesUp who)
    (hended : ∀ owner answer, s.ended? e = some (owner, answer) → owner.id? ≠ who) :
    s.PassStep who e p := by
  have hnone : s.endedIn who e = [] := by
    unfold endedIn
    split
    · rename_i owner answer hend
      exact if_neg (hended owner answer hend)
    · rfl
  rcases who with _ | id
  · refine .beside ?_ (ite_eq_right_iff.2 (asked_beside hbegins hended)) hnone (by simp)
    by_cases htick : ∃ order, e = .tick order
    · obtain ⟨order, rfl⟩ := htick
      exact (takeTick_idle hbegins).1.trans h
    · have hbackground := background_beside (fun order he => htick ⟨order, he⟩)
        (fun he => hgives (by rw [he]; rfl)) hended
      exact (congrArg Background.pass? hbackground).trans h
  · obtain ⟨hlt, ht⟩ := h
    obtain ⟨hkept, hnothing, hasked⟩ := step_beside hn hlt (fun he => hgives (by rw [he]; rfl))
      (fun request attempts ht' => by rw [ht] at ht'; cases p <;> simp at ht')
      (fun goal flight ht' => by rw [ht] at ht'; cases p <;> simp at ht') hended
    obtain ⟨started, hnext, -⟩ := (step_counted hn e).tasks
    refine .beside ⟨by omega, hkept.trans ht⟩ (ite_eq_right_iff.2 hasked) hnone fun id' hid => ?_
    obtain rfl : id = id' := Option.some.inj hid
    exact (connectsOf_eq_nil hnothing).2

/-- A step with which a pass is given up. -/
theorem CacheState.Carries.givenUp {s : CacheState} {who : Option Nat} {p : Option Pass}
    (h : s.Carries who p) {e : CacheEvent γ} (hgives : e.GivesUp who) : s.PassStep who e p := by
  rcases e with request | ⟨call, given, cancels⟩ | ⟨task, outcome, cancels⟩ | token | task
    | _ | _ | _ | order | nanos
  case abort =>
    obtain rfl : who = some task := hgives
    have hasked : s.askedIn (some task) (.abort task : CacheEvent γ) = [] := if_pos rfl
    exact .givenUp rfl ⟨h.1, s.task?_removeTask_self task⟩ hasked rfl fun _ _ => rfl
  case stop =>
    obtain rfl : who = none := hgives
    have hasked : s.askedIn none (.stop : CacheEvent γ) = [] := if_pos rfl
    exact .givenUp rfl rfl hasked rfl (by simp)
  all_goals exact hgives.elim

theorem CacheState.resultsOf_keepRefresh (s : CacheState) (id : Nat) (p : Pass) :
    resultsOf id (s.keepRefresh id p : Stepped γ).2
      = if p.isDone then [.refreshed p.replaced] else [] := by
  unfold keepRefresh
  split
  · simp [resultsOf]
  · rfl

/-- A step that ends a question of a pass. -/
theorem CacheState.Carries.ended {s : CacheState} (hn : s.Numbered) {who : Option Nat}
    {p : Option Pass} (h : s.Carries who p) {e : CacheEvent γ} {owner : Owner}
    {answer : Option Answer} (hended : s.ended? e = some (owner, answer))
    (hid : owner.id? = who) : s.PassStep who e p := by
  obtain ⟨q, rfl, hf, howner⟩ := h.of_ended hn hended hid
  obtain ⟨cancelled, -, hstep⟩ := step_of_ended hended
  have hsubject : s.subject? e = who := by
    obtain ⟨call, given, cancels, rfl⟩ := answer_of_ended hended
    simp only [subject?, (owner_of_ended hended).1, Option.bind_some, hid]
  have hone : s.endedIn who e = [owner.flight] := by
    simp only [endedIn, hended, hid, if_true]
  set u : CacheState := { s with cancelled := cancelled }
  obtain ⟨-, hnobody⟩ := u.endQuestion_only (γ := γ) q owner.flight answer
  have hasked := u.asked_endQuestion (γ := γ) q owner.flight answer
  set isReplaced := (u.entries.refreshed owner.flight.host
    (resolved owner.flight.host u.settings.lookupTimeout answer)).2
  set r : Pass × CacheState × List (CacheEffect γ) := u.endQuestion q owner.flight answer
  obtain ⟨id, rfl, ho⟩ | ⟨rfl, ticker, hb, ho⟩ := howner
  · have hstep : s.step e = ((r.2.1.keepRefresh id r.1 : Stepped γ).1,
        r.2.2 ++ (r.2.1.keepRefresh id r.1).2) := by
      rw [hstep, ho]
      rfl
    have ht : (r.2.1.task? id).isSome := Option.isSome_iff_exists.2 ⟨_, h.2⟩
    obtain ⟨htask, -⟩ := keepRefresh_task? (γ := γ) ht r.1
    obtain ⟨hstate, hquiet⟩ := r.2.1.keepRefresh_state (γ := γ) id r.1
    refine .ended hf isReplaced rfl ⟨?_, ?_⟩ ?_ hone fun id' hid' => ?_
    · rw [hstep, hstate]
      exact h.1
    · rw [hstep]
      exact htask.trans
        (apply_ite (Option.map Task.refreshing) (r.1.isDone = true) none (some r.1)).symm
    · rw [askedIn, if_pos hsubject, hstep, asked_append, hasked, hquiet, List.append_nil]
    · obtain rfl : id = id' := Option.some.inj hid'
      rw [hstep, resultsOf_append, resultsOf_keepRefresh,
        (connectsOf_eq_nil fun effect he => by simp [hnobody effect he]).2, List.nil_append]
      rfl
  · have hstep : s.step e = (r.2.1.keepBackground ticker r.1, r.2.2) := by
      rw [hstep, ho]
      rfl
    refine .ended hf isReplaced rfl ?_ ?_ hone (by simp)
    · rw [hstep]
      exact apply_ite Background.pass? (r.1.isDone = true) (.waiting ticker) (.passing ticker r.1)
    · rw [askedIn, if_pos hsubject, hstep]
      exact hasked

/-- What a step does to a pass that has begun before. -/
theorem CacheState.Carries.step {s : CacheState} (hn : s.Numbered) {who : Option Nat}
    {p : Option Pass} (h : s.Carries who p) {e : CacheEvent γ} (hbegins : ¬ s.Begins who e) :
    s.PassStep who e p := by
  by_cases hgives : e.GivesUp who
  · exact h.givenUp hgives
  by_cases hended : ∃ owner answer, s.ended? e = some (owner, answer) ∧ owner.id? = who
  · obtain ⟨owner, answer, hended, hid⟩ := hended
    exact h.ended hn hended hid
  · exact h.beside hn hbegins hgives fun owner answer he hid => hended ⟨owner, answer, he, hid⟩

/-- The step with which a pass begins. -/
theorem CacheState.Begins.step {s : CacheState} (hn : s.Numbered) {who : Option Nat}
    {e : CacheEvent γ} (h : s.Begins who e) :
    let p := s.firstPass e.order
    (s.step e).1.Carries who (if p.isDone then none else some p)
      ∧ s.askedIn who e = s.firstAsked e.order ∧ s.endedIn who e = []
      ∧ ∀ id ∈ who, resultsOf id (s.step e).2
        = if p.isDone then [.refreshed p.replaced] else [] := by
  intro p
  have hnobody : ∀ flights : List Flight, ∀ task,
      resultsOf task (flights.map .resolve : List (CacheEffect γ)) = [] := fun flights task =>
    resultsOf_eq_nil (by simp [CacheEffect.task?]) task
  rcases e with request | ⟨call, given, cancels⟩ | ⟨task, outcome, cancels⟩ | token | task
    | _ | _ | _ | order | nanos
  case start =>
    rcases request with host | host | ⟨host, order⟩ | request | order
    case refresh =>
      obtain rfl : who = some s.nextTask := h
      have htask : (s.refreshing order).task? s.nextTask
          = some (.refreshing (Pass.over (s.passHosts order))) :=
        task?_addTask_self (s := { s with nextTask := s.nextTask + 1 }) _ hn.task?_nextTask
      have hstep : s.step (.start (.refresh order) : CacheEvent γ)
          = (((s.refreshing order).keepRefresh s.nextTask p : Stepped γ).1,
            (s.firstAsked order).map .resolve
              ++ ((s.refreshing order).keepRefresh s.nextTask p).2) := s.start_refresh order
      obtain ⟨hk, -⟩ := keepRefresh_task? (γ := γ) (Option.isSome_of_mem htask) p
      obtain ⟨hs, ha⟩ := (s.refreshing order).keepRefresh_state (γ := γ) s.nextTask p
      refine ⟨⟨?_, ?_⟩, ?_, rfl, fun id hid => ?_⟩
      · rw [hstep, hs]
        exact Nat.lt_succ_self _
      · rw [hstep]
        exact hk.trans (apply_ite (Option.map Task.refreshing) (p.isDone = true) none (some p)).symm
      · refine (if_pos rfl).trans ?_
        rw [hstep, asked_append, asked_map_resolve, ha, List.append_nil]
        rfl
      · obtain rfl : s.nextTask = id := Option.some.inj hid
        rw [hstep, resultsOf_append, hnobody, resultsOf_keepRefresh]
        rfl
    all_goals exact h.elim
  case tick =>
    obtain ⟨rfl, ticker, hb, hdue, halive⟩ := h
    have hstep : s.step (.tick order : CacheEvent γ)
        = ({ s with nextCall := s.nextCall + (s.firstAsked order).length }.keepBackground
          (ticker.fire s.now) p, (s.firstAsked order).map .resolve) := by
      simp only [CacheState.step, takeTick, hb, hdue, halive]
      rfl
    refine ⟨?_, ?_, rfl, (by simp)⟩
    · rw [hstep]
      exact apply_ite Background.pass? (p.isDone = true) (.waiting (ticker.fire s.now))
        (.passing (ticker.fire s.now) p)
    · refine (if_pos rfl).trans ?_
      rw [hstep]
      exact asked_map_resolve _
  all_goals exact h.elim

end HostDialing

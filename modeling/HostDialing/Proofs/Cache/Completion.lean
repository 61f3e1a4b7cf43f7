import HostDialing.Proofs.Cache.Sequential
import HostDialing.Proofs.Cache.Stop

/-!
# Operations come to an end

Whatever is under way ends once the peers have said what they have to say: a question gets the
answer that there is for it, or runs into its deadline where there is none, and an attempt gets its
outcome. A pass takes the answers that there are before it lets time pass, since time that passes
for one of its questions passes for all. So every operation that can begin on a quiet cache can also
end (`Peers.exists_takes`), and all operations one after another (`Peers.exists_turns`).
-/

namespace HostDialing

variable {γ : Type}

/-- Whoever waits for an answer gets it: nobody else waits for one of the same number. -/
theorem CacheState.Numbered.owner?_of_waits {s : CacheState} (hn : s.Numbered) {owner : Owner}
    (hw : owner.Waits s) : s.owner? owner.flight.call = some owner := by
  rcases owner with ⟨id, goal, flight⟩ | ⟨id, pass, flight⟩ | ⟨ticker, pass, flight⟩
  · exact hn.owner?_of_task hw (if_pos rfl)
  · have hfind : pass.find? flight.call = some flight :=
      Pass.find?_of_mem (hn.calls_nodup_of_task hw.1) hw.2
    exact hn.owner?_of_task hw.1 (congrArg (Option.map (Owner.refresh id pass)) hfind)
  · obtain ⟨hb, hf⟩ := hw
    have hcalls := hn.calls_nodup
    simp only [flights, hb, List.map_append] at hcalls
    obtain ⟨-, hpass, hd⟩ := List.nodup_append.1 hcalls
    have htasks : s.tasks.findSome? (fun entry => entry.2.owner? entry.1 flight.call) = none := by
      rw [List.findSome?_eq_none_iff]
      intro entry he
      rcases ho : entry.2.owner? entry.1 flight.call with _ | other
      · rfl
      obtain ⟨hm, hc⟩ := Task.flight_of_owner? ho
      refine absurd hc (hd _ ?_ _ (List.mem_map_of_mem hf))
      exact List.mem_map_of_mem (List.mem_flatMap.2 ⟨entry, he, hm⟩)
    simp only [owner?, htasks, hb, Background.owner?, Owner.flight, Pass.find?_of_mem hpass hf,
      Option.map_some]

/-- The last attempt ends as the connector has it. -/
theorem Peers.Says.of_outcome {w : Peers γ} {past : List (CacheEffect γ)} {s : CacheState}
    {id : Nat} {network candidate : String}
    (h : (connectsOf id past).getLast? = some (network, candidate)) :
    w.Says past s (.outcome id (some (w.connect network candidate)) none) where
  answer owner answer h' := by simp [CacheState.ended?] at h'
  outcome id' outcome cancels request attempts he _ network' candidate' h' := by
    obtain ⟨rfl, ho, -⟩ := CacheEvent.outcome.inj he
    obtain ⟨rfl, rfl⟩ := Prod.mk.inj (Option.some.inj (h.symm.trans h'))
    exact (Option.some.inj ho).symm

/-- The peers can say what is left to say until nothing is under way. -/
def Peers.CanEnd (w : Peers γ) (past : List (CacheEffect γ)) (s : CacheState) : Prop :=
  ∃ es, (∀ e ∈ es, e.Attends) ∧ w.Serve past s es ∧ (s.after es).IsQuiet

namespace Peers

variable {w : Peers γ}

theorem CanEnd.of_quiet {past : List (CacheEffect γ)} {s : CacheState} (h : s.IsQuiet) :
    w.CanEnd past s :=
  ⟨[], by simp, trivial, h⟩

theorem CanEnd.cons {past : List (CacheEffect γ)} {s : CacheState} {e : CacheEvent γ}
    (he : e.Attends) (hw : w.Says past s e)
    (h : w.CanEnd (past ++ (s.step e).2) (s.step e).1) : w.CanEnd past s := by
  obtain ⟨es, hes, hserve, hquiet⟩ := h
  exact ⟨e :: es, List.forall_mem_cons.2 ⟨he, hes⟩, ⟨hw, hserve⟩, hquiet⟩

theorem CanEnd.of_later {past : List (CacheEffect γ)} {s : CacheState} (nanos : Nat)
    (h : w.CanEnd past (s.later nanos)) : w.CanEnd past s :=
  .cons (e := .elapse nanos) trivial (.of_other nofun nofun) (by rwa [← List.append_nil past] at h)

/-- A question ends: at once where there is an answer, and else at its deadline. -/
theorem CanEnd.of_waits {past : List (CacheEffect γ)} {s : CacheState} (hn : s.Numbered)
    (hc : s.cancelled = []) {owner : Owner} (hw : owner.Waits s) {answer : Option Answer}
    (ha : w.answers owner.flight.host (callsBefore past owner.flight) = answer)
    (htime : answer.isSome → s.now ≤ owner.flight.deadline)
    (h : ∀ nanos, (answer.isSome → nanos = 0) →
      let r : Stepped γ := (s.later nanos).conclude answer owner
      r.1.Numbered → w.CanEnd (past ++ r.2) r.1) : w.CanEnd past s := by
  obtain ⟨nanos, hnanos, hout⟩ : ∃ nanos, (answer.isSome → nanos = 0)
      ∧ owner.flight.outcome? (s.later nanos).now answer = some answer := by
    rcases answer with _ | given
    · refine ⟨owner.flight.deadline.nanos - s.now.nanos, by simp, if_pos ?_⟩
      show owner.flight.deadline.nanos ≤ s.now.nanos + _
      omega
    · exact ⟨0, fun _ => rfl, if_pos (htime rfl)⟩
  have ho : (s.later nanos).owner? owner.flight.call = some owner := hn.owner?_of_waits hw
  obtain ⟨hended, hstep⟩ := CacheState.step_of_owner (γ := γ) (s := s.later nanos) hc ho hout
  have hnum : (s.later nanos).Numbered := hn.step (γ := γ) (.elapse nanos)
  have hnext := hnum.step (γ := γ) (.answer owner.flight.call answer none)
  refine .of_later nanos (.cons (e := .answer owner.flight.call answer none) rfl ?_ ?_)
  · rw [← ha] at hended ⊢
    exact .of_ended hended
  · rw [hstep] at hnext ⊢
    exact h nanos hnanos hnext

/-- A dial that is alone, before its next attempt. -/
theorem canEnd_attempts {id : Nat} {request : DialRequest} :
    ∀ {left : List String} {first : Option IoError} {s : CacheState} {t : Task}
      {past : List (CacheEffect γ)}, s.tasks = [(id, t)] → s.passes = [] → s.cancelled = [] →
      let r : Stepped γ := s.attemptNext id request ⟨left, first⟩
      w.CanEnd (past ++ r.2) r.1 := by
  intro left
  induction left with
  | nil =>
    intro first s t past ht hp _
    rw [s.attemptNext_nil request id first]
    exact .of_quiet (CacheState.isQuiet_removeTask ht hp)
  | cons candidate left ih =>
    intro first s t past ht hp hc
    obtain ⟨hr, hut, hup⟩ :=
      CacheState.attemptNext_alone (γ := γ) ht hp hc request candidate left first
    set u := s.setTask id (.attempting request ⟨left, first⟩)
    have htask : u.task? id = some (.attempting request ⟨left, first⟩) := by
      simp [CacheState.task?, hut]
    have hstep := CacheState.step_outcome_of_attempting htask
      (show request.token ∉ s.cancelled by simp [hc]) (some (w.connect request.network candidate))
      none
    have hlast : (connectsOf id (past ++ [.connect id request.network candidate]
        : List (CacheEffect γ))).getLast? = some (request.network, candidate) := by
      simp [connectsOf]
    rw [hr]
    refine .cons (e := .outcome id (some _) none) rfl (.of_outcome hlast) ?_
    rw [hstep]
    rcases w.connect request.network candidate with error | connection
    · exact ih hut hup hc
    · exact .of_quiet (CacheState.isQuiet_removeTask hut hup)

/-- A task that is alone, when its lookup has come to something. -/
theorem canEnd_reach {id : Nat} (host : String) (goal : Goal)
    (result : Except ResolutionError (List String)) {s : CacheState} {t : Task}
    {past : List (CacheEffect γ)} (ht : s.tasks = [(id, t)]) (hp : s.passes = [])
    (hc : s.cancelled = []) :
    let r : Stepped γ := s.reach id host goal result
    w.CanEnd (past ++ r.2) r.1 := by
  have hquiet := CacheState.isQuiet_removeTask ht hp
  rcases goal with _ | _ | order | ⟨request, port⟩
  · exact .of_quiet hquiet
  · exact .of_quiet hquiet
  · rcases result with error | addresses
    · exact .of_quiet hquiet
    · exact .of_quiet hquiet
  · rcases result with error | addresses
    · exact .of_quiet hquiet
    · intro r
      set left := candidates addresses (request.order addresses.length) port
      have hr : r = ((s.attemptNext id request ⟨left, none⟩ : Stepped γ).1,
        .order id addresses.length :: (s.attemptNext id request ⟨left, none⟩).2) := rfl
      rw [hr, List.append_cons]
      exact canEnd_attempts ht hp hc

/-- A lookup that starts on a quiet cache. -/
theorem canEnd_sought {s : CacheState} (hs : s.IsQuiet) (hn : s.Numbered)
    (hc : s.cancelled = []) {request : Request} {host : String} {goal : Goal}
    (hsought : s.sought? request = some (host, goal)) {past : List (CacheEffect γ)} :
    let r : Stepped γ := s.step (.start request)
    w.CanEnd (past ++ r.2) r.1 := by
  intro r
  have hnext : r.1.Numbered := hn.step (.start request)
  obtain ⟨hut, hup, hstep⟩ := hs.step_of_sought (γ := γ) hsought
  set flight := Flight.start s.nextCall host s.now s.settings.lookupTimeout
  set u := ({ s with nextTask := s.nextTask + 1 } : CacheState).addTask s.nextTask
    (.resolving goal flight)
  rcases hk : s.entries.known? host with _ | addresses
  · simp only [hk] at hstep
    simp only [r, hstep] at hnext ⊢
    have hw : (Owner.lookup s.nextTask goal flight).Waits
        { u with nextCall := s.nextCall + 1 } := by
      simp [Owner.Waits, hut]
    refine .of_waits hnext hc hw rfl (fun _ => Nat.le_add_right _ _) ?_
    intro nanos _ r _
    obtain ⟨said, -, hr⟩ := CacheState.endLookup_eq (γ := γ)
      (({ u with nextCall := s.nextCall + 1 } : CacheState).later nanos) s.nextTask goal flight _
    have hr : r = _ := hr
    rw [hr, ← List.append_assoc]
    exact canEnd_reach host goal _ hut hup hc
  · simp only [hk] at hstep
    simp only [r, hstep]
    exact canEnd_reach host goal (.ok addresses) hut hup hc

end Peers

theorem CacheState.Makes.later {s : CacheState} {who : Option Nat} {p : Pass} (h : s.Makes who p)
    (nanos : Nat) : (s.later nanos).Makes who p := by
  rcases who with _ | id
  · exact h
  · exact h

theorem CacheState.Makes.waits {s : CacheState} {who : Option Nat} {p : Pass} (h : s.Makes who p)
    {flight : Flight} (hf : flight ∈ p.inFlight) :
    ∃ owner : Owner, owner.Waits s ∧ owner.flight = flight := by
  rcases who with _ | id
  · obtain ⟨-, ticker, hb⟩ := h
    exact ⟨.background ticker p flight, ⟨hb, hf⟩, rfl⟩
  · exact ⟨.refresh id p flight, ⟨by simp [h.1], hf⟩, rfl⟩

namespace Peers

variable {w : Peers γ}

/-- The window of a pass is full while there are hosts to begin, and no answer that there is for one
of its questions is late. -/
structure Timely (w : Peers γ) (calls : String → Nat) (now : Instant) (p : Pass) : Prop where
  window : p.inFlight.length ≤ passWindow
  full : p.unstarted = [] ∨ p.inFlight.length = passWindow
  inTime : ∀ flight ∈ p.inFlight,
    (w.answers flight.host (calls flight.host)).isSome → now ≤ flight.deadline

theorem Timely.of_fill {calls : String → Nat} {p : Pass} (hwindow : p.inFlight.length ≤ passWindow)
    {now : Instant} (h : ∀ flight ∈ p.inFlight,
      (w.answers flight.host (calls flight.host)).isSome → now ≤ flight.deadline)
    (limit : Duration) (call : Nat) : w.Timely calls now (p.fill now limit call) := by
  obtain ⟨hle, hfull⟩ := p.fill_window hwindow now limit call
  refine ⟨hle, hfull, fun flight hf hs => ?_⟩
  rcases List.mem_append.1 hf with hf | hf
  · exact h flight hf hs
  · obtain ⟨⟨host, n⟩, -, rfl⟩ := List.mem_map.1 hf
    exact Nat.le_add_right _ _

theorem Timely.inFlight_ne_nil {calls : String → Nat} {now : Instant} {p : Pass}
    (h : w.Timely calls now p) (hd : ¬ p.isDone) : p.inFlight ≠ [] := by
  intro hnil
  rcases h.full with hu | hl
  · simp [Pass.isDone, hu, hnil] at hd
  · simp [hnil, passWindow] at hl

/-- A pass that is alone. The induction is on a bound of the hosts that are pending, of which each
question that ends takes one off. -/
theorem canEnd_pass {who : Option Nat} {calls : String → Nat} (n : Nat) :
    ∀ {s : CacheState} {p : Pass} {past : List (CacheEffect γ)}, p.pending.length ≤ n →
      s.Leaves who p → s.Numbered → s.cancelled = [] → p.pending ⊆ s.entries.hosts →
      p.Counted calls past s.nextCall → w.Timely calls s.now p → w.CanEnd past s := by
  induction n with
  | zero =>
    intro s p past hlen hm _ _ _ _ ht
    have hd : p.isDone := by
      by_contra hd
      have hnil := List.append_eq_nil_iff.1 (List.eq_nil_of_length_eq_zero (Nat.le_zero.1 hlen))
      exact ht.inFlight_ne_nil hd (List.map_eq_nil_iff.1 hnil.1)
    rw [CacheState.Leaves, if_pos hd] at hm
    exact .of_quiet hm
  | succ n ih =>
    intro s p past hlen hm hn hc hk hp ht
    by_cases hd : p.isDone
    · rw [CacheState.Leaves, if_pos hd] at hm
      exact .of_quiet hm
    rw [CacheState.Leaves, if_neg hd] at hm
    set answer := fun flight : Flight => w.answers flight.host (calls flight.host)
    obtain ⟨flight, hf, hfirst⟩ : ∃ flight ∈ p.inFlight,
        (answer flight).isSome ∨ ∀ other ∈ p.inFlight, answer other = none := by
      by_cases hsome : ∃ flight ∈ p.inFlight, (answer flight).isSome
      · obtain ⟨flight, hf, hsome⟩ := hsome
        exact ⟨flight, hf, .inl hsome⟩
      · obtain ⟨flight, hf⟩ := List.exists_mem_of_ne_nil _ (ht.inFlight_ne_nil hd)
        exact ⟨flight, hf, .inr fun other ho => by simpa using fun h => hsome ⟨other, ho, h⟩⟩
    obtain ⟨owner, hw, rfl⟩ := hm.waits hf
    refine .of_waits hn hc hw (congrArg _ (hp.inFlight _ hf)) (ht.inTime _ hf) ?_
    intro nanos hnanos r hnum
    obtain ⟨-, hleaves, hasked, ⟨background, tasks, hstate⟩, -⟩ :=
      (hm.later nanos).conclude (γ := γ) hk hw (answer owner.flight)
    set rest := p.finish owner.flight
      (resolved owner.flight.host s.settings.lookupTimeout (answer owner.flight)).isOk
    set q := rest.fill (s.later nanos).now s.settings.lookupTimeout s.nextCall
    have hperm : p.pending.Perm (owner.flight.host :: q.pending) :=
      p.pending_perm hp.numbers hf _ _ _ _
    have hcounted := (hp.finish owner.flight _).fill hasked
    have hr : r.1 = _ := hstate
    refine ih (p := q) ?_ hleaves hnum ?_ ?_ ?_ ?_
    · have := hperm.length_eq
      rw [List.length_cons] at this
      omega
    · rw [hr]
      exact hc
    · rw [hr]
      simp only [Entries.hosts_renewed]
      exact fun host hh => hk (hperm.mem_iff.2 (List.mem_cons_of_mem _ hh))
    · rw [hr]
      exact hcounted
    · rw [hr]
      refine .of_fill (Nat.le_trans (List.length_filter_le _ _) ht.window)
        (fun other ho hs => ?_) _ _
      have ho := List.mem_of_mem_filter ho
      rcases hfirst with hsome | hnone
      · rw [hnanos hsome]
        exact ht.inTime other ho hs
      · simp [answer, hnone other ho] at hs

/-- A pass that begins on a quiet cache. -/
theorem canEnd_begun {s : CacheState} (hs : s.IsQuiet) (hn : s.Numbered) (hc : s.cancelled = [])
    (hnodup : s.entries.hosts.Nodup) {past : List (CacheEffect γ)}
    (hpast : ∀ flight ∈ asked past, flight.call < s.nextCall) {who : Option Nat}
    {e : CacheEvent γ} (he : s.Begins who e) :
    w.CanEnd (past ++ (s.step e).2) (s.step e).1 := by
  obtain ⟨order, hleaves, hasked, ⟨background, tasks, nextTask, hstate⟩, -⟩ := hs.begins he
  have hhosts := s.passHosts_perm order
  have hcounted : (s.firstPass order).Counted (callsFor past) (past ++ (s.step e).2)
      (s.step e).1.nextCall := by
    rw [hstate]
    exact (Pass.Counted.over (hhosts.nodup_iff.2 hnodup) hpast).fill hasked
  have htimely : w.Timely (callsFor past) (s.step e).1.now (s.firstPass order) := by
    rw [hstate]
    exact .of_fill (Nat.zero_le _) (by simp [Pass.over]) _ _
  have hpending : (s.firstPass order).pending ⊆ (s.step e).1.entries.hosts := by
    rw [hstate]
    exact s.pending_begun order
  have hcancelled : (s.step e).1.cancelled = [] := by
    rw [hstate]
    exact hc
  exact canEnd_pass _ (Nat.le_refl _) hleaves (hn.step e) hcancelled hpending hcounted htimely

end Peers

/-- An event that begins the operation. -/
def Operation.event : Operation → CacheEvent γ
  | lookup host => .start (.lookup host)
  | prewarm host => .start (.prewarm host)
  | sockets host order => .start (.sockets host order)
  | dial network addr order => .start (.dial ⟨network, addr, order, .single 0⟩)
  | refresh => .start (.refresh [])
  | pass => .tick []
  | clear => .clear

theorem Operation.operation?_event (op : Operation) :
    (op.event : CacheEvent γ).operation? = some op := by
  cases op <;> rfl

namespace Peers

variable {w : Peers γ}

theorem canEnd_event {s : CacheState} (hs : s.IsQuiet) (hn : s.Numbered) (hc : s.cancelled = [])
    (hnodup : s.entries.hosts.Nodup) {past : List (CacheEffect γ)}
    (hpast : ∀ flight ∈ asked past, flight.call < s.nextCall) {op : Operation}
    (hdue : op = .pass →
      ∃ ticker, s.background = .waiting ticker ∧ ticker.isDue s.now ∧ s.isAlive) :
    let r : Stepped γ := s.step op.event
    w.CanEnd (past ++ r.2) r.1 := by
  rcases op with host | host | ⟨host, order⟩ | ⟨network, addr, order⟩ | _ | _ | _
  case dial =>
    set request : DialRequest := ⟨network, addr, order, .single 0⟩
    rcases hparse : Target.parse request.addr with error | target
    · have hstep := s.step_start_unparsed (γ := γ) hparse
      simp only [Operation.event, request, hstep]
      exact .of_quiet ⟨hs.tasks, hs.passes⟩
    · have hsought := (s.sought?_dial hparse).trans (if_neg (by simp [hc]))
      exact canEnd_sought hs hn hc hsought
  case refresh =>
    have hbegins : s.Begins (some s.nextTask) (.start (.refresh []) : CacheEvent γ) := rfl
    exact canEnd_begun hs hn hc hnodup hpast hbegins
  case pass =>
    have hbegins : s.Begins none (.tick [] : CacheEvent γ) := ⟨rfl, hdue rfl⟩
    exact canEnd_begun hs hn hc hnodup hpast hbegins
  case clear => exact .of_quiet ⟨hs.tasks, hs.passes⟩
  all_goals exact canEnd_sought hs hn hc rfl

/-- Every operation on a quiet cache can begin and end, a pass where there is somebody to make
one. -/
theorem exists_takes {s : CacheState} (hs : s.IsQuiet) (hn : s.Numbered) (hc : s.cancelled = [])
    (hnodup : s.entries.hosts.Nodup) {past : List (CacheEffect γ)}
    (hpast : ∀ flight ∈ asked past, flight.call < s.nextCall) {op : Operation}
    (hpass : op = .pass → ∃ ticker, s.background = .waiting ticker ∧ s.isAlive) :
    ∃ t : Turn γ, s.Takes op t ∧ w.Serve past s t.events := by
  obtain ⟨pause, hdue⟩ : ∃ pause, op = .pass →
      ∃ ticker, s.background = .waiting ticker ∧ ticker.isDue (s.later pause).now ∧ s.isAlive := by
    by_cases hop : op = .pass
    · obtain ⟨ticker, hb, halive⟩ := hpass hop
      refine ⟨ticker.next.nanos - s.now.nanos, fun _ => ⟨ticker, hb, decide_eq_true ?_, halive⟩⟩
      show ticker.next.nanos ≤ s.now.nanos + _
      omega
    · exact ⟨0, fun h => absurd h hop⟩
  have hlater : (s.later pause).IsQuiet := ⟨hs.tasks, hs.passes⟩
  obtain ⟨during, hattends, hserve, hquiet⟩ : w.CanEnd (past ++ ((s.later pause).step op.event).2)
      ((s.later pause).step op.event).1 :=
    canEnd_event hlater (hn.step (γ := γ) (.elapse pause)) hc hnodup hpast hdue
  refine ⟨⟨pause, op.event, during⟩, ⟨op.operation?_event, hdue, hattends, hquiet⟩,
    .of_other nofun nofun, ?_, ?_⟩
  · cases op <;> exact .of_other nofun nofun
  · rwa [← List.append_nil past] at hserve

end Peers

/-- Without a background task there is none ever after. -/
theorem CacheState.background_after {s : CacheState} (h : s.background = .ended)
    (es : List (CacheEvent γ)) : (s.after es).background = .ended := by
  induction es generalizing s with
  | nil => exact h
  | cons e es ih =>
    refine ih ?_
    by_cases hstop : e = .stop
    · rw [hstop]
      rfl
    by_cases htick : ∃ order, e = .tick order
    · obtain ⟨order, rfl⟩ := htick
      simp only [step, takeTick, h]
    · have hidle : s.background.flights = [] := by
        rw [h]
        rfl
      exact (background_step hidle (fun order ho => htick ⟨order, ho⟩) hstop).1.trans h

/-- Who makes a pass in turn has been there from the start. -/
theorem CacheState.InTurns.background {s : CacheState} {turns : List (Turn γ)}
    (h : s.InTurns turns) (hpass : .pass ∈ operationsOf turns) :
    s.background ≠ .ended := by
  induction turns generalizing s with
  | nil => simp [operationsOf] at hpass
  | cons t ts ih =>
    obtain ⟨⟨op, ht⟩, hts⟩ := h
    intro hended
    rw [operationsOf_cons ht.begins, List.mem_cons] at hpass
    rcases hpass with rfl | hpass
    · obtain ⟨ticker, hb, -⟩ := ht.due rfl
      simp [hb] at hended
    · exact ih hts hpass (background_after hended t.events)

/-- All operations can be done one after another. -/
theorem Peers.exists_turns (w : Peers γ) (settings : Settings) (now : Instant)
    (ops : List Operation) :
    ∀ history : List (CacheEvent γ),
      let s := (CacheState.fresh settings now).after history
      let past := (CacheState.fresh settings now).effects history
      s.IsQuiet → s.cancelled = [] → s.isReleased = false →
        (.pass ∈ ops → s.background ≠ .ended) →
          ∃ turns : List (Turn γ), operationsOf turns = ops
            ∧ s.InTurns turns ∧ w.Serve past s (turns.flatMap Turn.events) := by
  induction ops with
  | nil => exact fun _ _ _ _ _ => ⟨[], rfl, trivial, trivial⟩
  | cons op ops ih =>
    intro history s past hs hc hr hb
    have hreach : s.Reachable γ := ⟨settings, now, history, rfl⟩
    have hpass : op = .pass → ∃ ticker, s.background = .waiting ticker ∧ s.isAlive := by
      rintro rfl
      have hnone := hs.background
      rcases hbackground : s.background with ticker | ⟨ticker, pass⟩ | _
      · exact ⟨ticker, rfl, by simp [CacheState.isAlive, hr]⟩
      · simp [hbackground, Background.pass?] at hnone
      · exact absurd hbackground (hb List.mem_cons_self)
    obtain ⟨t, ht, hserve⟩ := w.exists_takes hs hreach.numbered hc hreach.hosts_nodup
      (CacheState.call_lt_of_asked settings now history) hpass
    have hkeeps := ht.keeps hc
    have hnext := ih (history ++ t.events)
    rw [CacheState.after_append, CacheState.effects_append] at hnext
    obtain ⟨turns, hops, hturns, hrest⟩ := hnext ht.ends (hkeeps.cancelled.trans hc)
      (hkeeps.isReleased.trans hr)
      fun hm => hkeeps.background hr (hb (List.mem_cons_of_mem _ hm))
    refine ⟨t :: turns, ?_, ⟨⟨op, ht⟩, hturns⟩, Peers.serve_append.2 ⟨hserve, hrest⟩⟩
    rw [operationsOf_cons ht.begins, hops]

end HostDialing

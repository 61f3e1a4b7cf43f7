import HostDialing.Cache.Direct
import HostDialing.Proofs.Cache.Writes

/-!
# A refresh pass

The questions of a pass end in any order, at most eight are in the air, and each that ends lets the
next begin. The invariant `CacheState.Pursues` says where the hosts are meanwhile: done, in the air
or not begun, each known host in one place. With nothing else writing, the entries are at any time
those at the start with the answers of the hosts that are done in place (`Entries.renewed`), so in
the end the order has left no trace and the pass has come to what one host after another comes to.
-/

namespace HostDialing

variable {γ : Type}

/-! ## New addresses in place of old ones -/

/-- The entries with new addresses for those hosts that have them. -/
def Entries.renewed (e : Entries) (new : String → Option (List String)) : Entries :=
  ⟨e.list.map fun entry => (entry.1, (new entry.1).getD entry.2)⟩

theorem Entries.hosts_renewed (e : Entries) (new : String → Option (List String)) :
    (e.renewed new).hosts = e.hosts := by
  simp [hosts, renewed]

theorem Entries.get?_renewed (e : Entries) (new : String → Option (List String)) (host : String) :
    (e.renewed new).get? host = (e.get? host).map fun old => (new host).getD old := by
  obtain ⟨l⟩ := e
  simp only [get?, renewed]
  induction l with
  | nil => rfl
  | cons entry rest ih =>
    obtain ⟨name, old⟩ := entry
    simp only [List.map_cons, List.lookup_cons, ih]
    by_cases h : host = name
    · simp [h]
    · have hb : (host == name) = false := by simp [h]
      simp only [hb]

theorem Entries.renewed_none (e : Entries) : e.renewed (fun _ => none) = e := by
  simp [renewed]

theorem Entries.renewed_congr {e : Entries} {new new' : String → Option (List String)}
    (h : ∀ host ∈ e.hosts, new host = new' host) : e.renewed new = e.renewed new' := by
  refine congrArg Entries.mk (List.map_congr_left fun entry he => ?_)
  rw [h entry.1 (List.mem_map_of_mem he)]

theorem Entries.renewed_renewed (e : Entries) (new new' : String → Option (List String)) :
    (e.renewed new).renewed new' = e.renewed fun host => (new' host).or (new host) := by
  simp only [renewed, List.map_map]
  refine congrArg Entries.mk (List.map_congr_left fun entry _ => ?_)
  rcases h : new' entry.1 with _ | addresses <;> simp [h]

/-- A refresh of one host, told as new addresses in place of old ones. -/
theorem Entries.refreshed_eq {e : Entries} {host : String} (h : host ∈ e.hosts)
    (result : Except ResolutionError (List String)) :
    e.refreshed host result
      = (e.renewed fun other => if other = host then result.toOption else none, result.isOk) := by
  rcases result with error | addresses
  · refine Prod.ext ?_ rfl
    simp only [refreshed, Except.toOption, ite_self]
    exact e.renewed_none.symm
  · simp only [refreshed, if_pos ((e.isSome_get?_iff host).2 h), Except.toOption]
    refine Prod.ext (congrArg Entries.mk (List.map_congr_left fun entry _ => ?_)) rfl
    by_cases hh : entry.1 = host <;> simp [hh]

/-- Asked for hosts one after another, the resolver has these outcomes, and comes from `w` to
`w'`. -/
def Resolver.Answers {σ : Type} (resolve : Resolver σ) (outcome : String → Option Answer) :
    (hosts : List String) → (w w' : σ) → Prop
  | [], w, w' => w = w'
  | host :: hosts, w, w' =>
    (resolve host w).1 = outcome host ∧ Answers resolve outcome hosts (resolve host w).2 w'

/-- What a pass over some of the known hosts comes to, one host after another. -/
theorem refreshHosts_of_answers {σ : Type} {resolve : Resolver σ}
    {outcome : String → Option Answer} (limit : Duration) {hosts : List String} :
    ∀ {e : Entries} {w w' : σ}, hosts ⊆ e.hosts → Resolver.Answers resolve outcome hosts w w' →
      refreshHosts resolve limit hosts ⟨e, w⟩
        = (hosts.countP fun host => (resolved host limit (outcome host)).isOk,
          ⟨e.renewed fun host =>
            if host ∈ hosts then (resolved host limit (outcome host)).toOption else none, w'⟩) := by
  induction hosts with
  | nil =>
    intro e w w' _ hw
    obtain rfl : w = w' := hw
    simp [refreshHosts, Entries.renewed_none]
  | cons host hosts ih =>
    intro e w w' h hw
    obtain ⟨hfirst, hw⟩ := hw
    rw [List.cons_subset] at h
    simp only [refreshHosts, hfirst, Entries.refreshed_eq h.1]
    rw [ih (by rw [Entries.hosts_renewed]; exact h.2) hw, Entries.renewed_renewed, List.countP_cons]
    refine Prod.ext ?_ (congrArg (Surroundings.mk · w') (Entries.renewed_congr fun other _ => ?_))
    · cases (resolved host limit (outcome host)).isOk <;> rfl
    · by_cases ho : other = host
      · subst ho
        by_cases hm : other ∈ hosts <;> simp [hm]
      · simp [ho]

/-- The same of a resolver that always says the same. -/
theorem refreshHosts_eq {σ : Type} (outcome : String → Option Answer) (limit : Duration) (w : σ)
    (hosts : List String) {e : Entries} (h : hosts ⊆ e.hosts) :
    refreshHosts (fun host w => (outcome host, w)) limit hosts ⟨e, w⟩
      = (hosts.countP fun host => (resolved host limit (outcome host)).isOk,
        ⟨e.renewed fun host =>
          if host ∈ hosts then (resolved host limit (outcome host)).toOption else none, w⟩) := by
  have hsame : ∀ hosts : List String,
      Resolver.Answers (fun host (w : σ) => (outcome host, w)) outcome hosts w w := by
    intro hosts
    induction hosts with
    | nil => rfl
    | cons host hosts ih => exact ⟨rfl, ih⟩
  exact refreshHosts_of_answers limit h (hsame hosts)

/-! ## The window -/

theorem Pass.starting_hosts (p : Pass) (now : Instant) (limit : Duration) (call : Nat) :
    (p.starting now limit call).map Flight.host
      = p.unstarted.take (passWindow - p.inFlight.length) := by
  simp only [starting, List.map_map]
  exact List.zipIdx_map_fst _ _

theorem Pass.fill_hosts (p : Pass) (now : Instant) (limit : Duration) (call : Nat) :
    (p.fill now limit call).inFlight.map Flight.host ++ (p.fill now limit call).unstarted
      = p.inFlight.map Flight.host ++ p.unstarted := by
  simp only [fill, List.map_append, starting_hosts, List.append_assoc, List.take_append_drop]

/-- A pass that fills its window leaves no place in it while there are hosts to begin. -/
theorem Pass.fill_window {p : Pass} (h : p.inFlight.length ≤ passWindow) (now : Instant)
    (limit : Duration) (call : Nat) :
    (p.fill now limit call).inFlight.length ≤ passWindow
      ∧ ((p.fill now limit call).unstarted = []
        ∨ (p.fill now limit call).inFlight.length = passWindow) := by
  simp only [fill, starting, List.length_append, List.length_map, List.length_zipIdx,
    List.length_take, List.drop_eq_nil_iff]
  omega

theorem Pass.finish_perm {p : Pass} (hn : (p.inFlight.map Flight.call).Nodup) {flight : Flight}
    (h : flight ∈ p.inFlight) (isReplaced : Bool) :
    p.inFlight.Perm (flight :: (p.finish flight isReplaced).inFlight) := by
  have hf : p.inFlight.erase flight = (p.finish flight isReplaced).inFlight := by
    rw [List.Nodup.erase_eq_filter (List.Nodup.of_map _ hn)]
    refine List.filter_congr fun other ho => ?_
    rw [Bool.eq_iff_iff, bne_iff_ne, bne_iff_ne, not_iff_not]
    exact ⟨congrArg Flight.call, fun hc => List.inj_on_of_nodup_map hn ho h hc⟩
  rw [← hf]
  exact List.perm_cons_erase h

/-! ## The waiting refresh -/

/-- A refresh waits as long as its pass is not done, and ends with the number of replaced hosts. -/
theorem CacheState.keepRefresh_task? {s : CacheState} {id : Nat} (h : (s.task? id).isSome)
    (p : Pass) :
    let r : Stepped γ := s.keepRefresh id p
    r.1.task? id = (if p.isDone then none else some (.refreshing p))
      ∧ ∀ result, .finished id result ∈ r.2 ↔ p.isDone ∧ result = .refreshed p.replaced := by
  unfold keepRefresh
  by_cases hd : p.isDone
  · simp only [if_pos hd]
    exact ⟨s.task?_removeTask_self id, by simp [hd]⟩
  · simp only [if_neg hd]
    exact ⟨task?_setTask_self _ h, by simp [hd]⟩

theorem CacheState.passHosts_perm (s : CacheState) (hosts : List String) :
    (s.passHosts hosts).Perm s.entries.hosts := by
  unfold passHosts
  split
  · rename_i h
    exact List.isPerm_iff.1 h
  · exact List.Perm.refl _

/-! ## A pass alone -/

/-- The hosts whose questions a refresh ends in a run, as they end. -/
def CacheState.endedBy (s : CacheState) (id : Nat) : List (CacheEvent γ) → List String
  | [] => []
  | e :: es =>
    let hosts := match s.ended? e with
      | some (.refresh task _ flight, _) => if task = id then [flight.host] else []
      | _ => []
    hosts ++ (s.step e).1.endedBy id es

/-- The questions that a task asks in a run. -/
def CacheState.askedBy (s : CacheState) (id : Nat) : List (CacheEvent γ) → List Flight
  | [] => []
  | e :: es =>
    (if s.subject? e = some id then asked (s.step e).2 else []) ++ (s.step e).1.askedBy id es

/-- A step while a refresh is under way that does not interfere with it: if it ends one of its
questions the answer is the one that the host has, if not it leaves the entries as they are. -/
structure CacheState.Undisturbed (id : Nat) (outcome : String → Option Answer) (s : CacheState)
    (e : CacheEvent γ) : Prop where
  kept : e ≠ .abort id
  answer : ∀ pass flight answer, s.ended? e = some (.refresh id pass flight, answer) →
    answer = outcome flight.host
  alone : (∀ pass flight answer, s.ended? e ≠ some (.refresh id pass flight, answer)) →
    (s.step e).1.entries = s.entries

theorem CacheState.Undisturbed.of_ended {id : Nat} {outcome : String → Option Answer}
    {s : CacheState} {e : CacheEvent γ} {pass : Pass} {flight : Flight}
    (h : s.ended? e = some (.refresh id pass flight, outcome flight.host)) :
    Undisturbed id outcome s e := by
  refine ⟨?_, ?_, fun hne => absurd h (hne pass flight _)⟩
  · rintro rfl
    simp [ended?] at h
  · intro pass' flight' answer h'
    obtain ⟨⟨-, rfl⟩, rfl⟩ : (pass = pass' ∧ flight = flight') ∧ outcome flight.host = answer := by
      simpa using h.symm.trans h'
    rfl

/-- What holds of each step of a run. -/
def CacheState.Throughout (P : CacheState → CacheEvent γ → Prop) (s : CacheState) :
    List (CacheEvent γ) → Prop
  | [] => True
  | e :: es => P s e ∧ Throughout P (s.step e).1 es

instance CacheState.decidableThroughout {P : CacheState → CacheEvent γ → Prop}
    [∀ s e, Decidable (P s e)] :
    ∀ (s : CacheState) (es : List (CacheEvent γ)), Decidable (Throughout P s es)
  | _, [] => isTrue trivial
  | s, e :: es =>
    have := decidableThroughout (P := P) (s.step e).1 es
    inferInstanceAs (Decidable (P s e ∧ Throughout P (s.step e).1 es))

theorem CacheState.throughout_append {P : CacheState → CacheEvent γ → Prop}
    {es es' : List (CacheEvent γ)} :
    ∀ {s : CacheState},
      Throughout P s (es ++ es') ↔ Throughout P s es ∧ Throughout P (s.after es) es' := by
  induction es with
  | nil => intro s; exact (and_iff_right trivial).symm
  | cons e es ih =>
    intro s
    simp only [List.cons_append, Throughout, after, ih, and_assoc]

theorem CacheState.endedBy_singleton {s : CacheState} {e : CacheEvent γ} {id : Nat} {pass : Pass}
    {flight : Flight} {answer : Option Answer}
    (h : s.ended? e = some (.refresh id pass flight, answer)) :
    s.endedBy id [e] = [flight.host] := by
  simp [endedBy, h]

theorem CacheState.endedBy_singleton_of_ne {s : CacheState} {e : CacheEvent γ} {id : Nat}
    (h : ∀ pass flight answer, s.ended? e ≠ some (.refresh id pass flight, answer)) :
    s.endedBy id [e] = [] := by
  simp only [endedBy, List.append_nil]
  split
  · rename_i task pass flight answer hended
    rw [if_neg]
    rintro rfl
    exact h pass flight answer hended
  · rfl

theorem CacheState.endedBy_append (id : Nat) (es es' : List (CacheEvent γ)) :
    ∀ s : CacheState,
      s.endedBy id (es ++ es') = s.endedBy id es ++ (s.after es).endedBy id es' := by
  induction es with
  | nil => intro s; rfl
  | cons e es ih =>
    intro s
    simp only [List.cons_append, endedBy, after, ih, List.append_assoc]

theorem CacheState.askedBy_append (id : Nat) (es es' : List (CacheEvent γ)) :
    ∀ s : CacheState,
      s.askedBy id (es ++ es') = s.askedBy id es ++ (s.after es).askedBy id es' := by
  induction es with
  | nil => intro s; rfl
  | cons e es ih =>
    intro s
    simp only [List.cons_append, askedBy, after, ih, List.append_assoc]

/-- Where a run that began with a refresh has brought it. -/
structure CacheState.Pursues (s : CacheState) (outcome : String → Option Answer)
    (run : List (CacheEvent γ)) (pass : Pass) : Prop where
  id_lt : s.nextTask < (s.after run).nextTask
  settings : (s.after run).settings = s.settings
  task? : (s.after run).task? s.nextTask = if pass.isDone then none else some (.refreshing pass)
  entries : (s.after run).entries = s.entries.renewed fun host =>
    if host ∈ s.endedBy s.nextTask run then
      (resolved host s.settings.lookupTimeout (outcome host)).toOption
    else none
  hosts : (s.endedBy s.nextTask run ++ (pass.inFlight.map Flight.host ++ pass.unstarted)).Perm
    s.entries.hosts
  asked : ((s.askedBy s.nextTask run).map Flight.host).Perm
    (s.endedBy s.nextTask run ++ pass.inFlight.map Flight.host)
  replaced : pass.replaced = (s.endedBy s.nextTask run).countP fun host =>
    (resolved host s.settings.lookupTimeout (outcome host)).isOk
  window : pass.inFlight.length ≤ passWindow
    ∧ (pass.unstarted = [] ∨ pass.inFlight.length = passWindow)
  finished : ∀ result, .finished s.nextTask result ∈ s.effects run
    ↔ pass.isDone ∧ result = .refreshed pass.replaced

theorem CacheState.Numbered.pursues_start {s : CacheState} (hn : s.Numbered)
    (outcome : String → Option Answer) (order : List String) :
    s.Pursues outcome [(.start (.refresh order) : CacheEvent γ)] (s.firstPass order) := by
  have htask : (s.refreshing order).task? s.nextTask
      = some (.refreshing (Pass.over (s.passHosts order))) :=
    task?_addTask_self (s := { s with nextTask := s.nextTask + 1 }) _ hn.task?_nextTask
  have hstep : s.step (.start (.refresh order) : CacheEvent γ) = _ := s.start_refresh order
  obtain ⟨hk, hf⟩ := keepRefresh_task? (γ := γ) (Option.isSome_of_mem htask) (s.firstPass order)
  obtain ⟨hs, ha⟩ := (s.refreshing order).keepRefresh_state (γ := γ) s.nextTask (s.firstPass order)
  have hended : s.endedBy s.nextTask [(.start (.refresh order) : CacheEvent γ)] = [] := rfl
  have hasked : s.askedBy s.nextTask [(.start (.refresh order) : CacheEvent γ)]
      = s.firstAsked order := by
    simp only [askedBy, subject?, hstep, asked_append, asked_map_resolve, ha,
      List.append_nil, if_true]
  refine ⟨?_, ?_, ?_, ?_, ?_, ?_, ?_, ?_, ?_⟩
  · rw [after_singleton, hstep, hs]
    exact Nat.lt_succ_self _
  · rw [after_singleton, hstep, hs]
    rfl
  · rw [after_singleton, hstep]
    exact hk
  · rw [after_singleton, hstep, hs, hended]
    simp only [List.not_mem_nil, if_false]
    exact s.entries.renewed_none.symm
  · rw [hended, List.nil_append, firstPass, Pass.fill_hosts]
    exact s.passHosts_perm order
  · rw [hended, hasked]
    exact List.Perm.refl _
  · rw [hended]
    rfl
  · exact Pass.fill_window (Nat.zero_le _) _ _ _
  · intro result
    rw [effects_singleton, hstep, List.mem_append]
    simp only [hf, List.mem_map, reduceCtorEq, and_false, exists_false, false_or]

/-- The end of a question of a pass, of a host that is known. -/
theorem CacheState.endQuestion_known {s : CacheState} {flight : Flight}
    (hh : flight.host ∈ s.entries.hosts) (pass : Pass) (answer : Option Answer) :
    let result := resolved flight.host s.settings.lookupTimeout answer
    let p := pass.finish flight result.isOk
    let new := p.starting s.now s.settings.lookupTimeout s.nextCall
    ∃ said : List (CacheEffect γ), s.endQuestion pass flight answer
        = (p.fill s.now s.settings.lookupTimeout s.nextCall, { s with
          entries := s.entries.renewed fun host =>
            if host = flight.host then result.toOption else none
          nextCall := s.nextCall + new.length }, said)
      ∧ asked said = new ∧ ∀ effect ∈ said, effect.task? = none := by
  intro result p new
  refine ⟨(s.endQuestion pass flight answer).2.2, ?_, ?_,
    (s.endQuestion_only pass flight answer).2⟩
  · simp only [endQuestion, Entries.refreshed_eq hh]
    rfl
  · rw [asked_endQuestion, Entries.refreshed_eq hh]

/-- A refresh in which a question ends, of a host that is known. -/
theorem CacheState.conclude_refresh {s : CacheState} {id : Nat} (h : (s.task? id).isSome)
    {flight : Flight} (hh : flight.host ∈ s.entries.hosts) (pass : Pass)
    (answer : Option Answer) :
    let result := resolved flight.host s.settings.lookupTimeout answer
    let p := pass.finish flight result.isOk
    let q := p.fill s.now s.settings.lookupTimeout s.nextCall
    let r : Stepped γ := s.conclude answer (.refresh id pass flight)
    r.1.task? id = (if q.isDone then none else some (.refreshing q))
      ∧ r.1.entries = s.entries.renewed (fun host =>
        if host = flight.host then result.toOption else none)
      ∧ r.1.settings = s.settings ∧ r.1.nextTask = s.nextTask
      ∧ asked r.2 = p.starting s.now s.settings.lookupTimeout s.nextCall
      ∧ ∀ result, .finished id result ∈ r.2 ↔ q.isDone ∧ result = .refreshed q.replaced := by
  intro result p q r
  set u : CacheState := { s with
    entries := s.entries.renewed fun host => if host = flight.host then result.toOption else none
    nextCall := s.nextCall + (p.starting s.now s.settings.lookupTimeout s.nextCall).length }
  obtain ⟨said, hend, hasked, hnobody⟩ := endQuestion_known (γ := γ) hh pass answer
  have hr : r = ((u.keepRefresh id q : Stepped γ).1, said ++ (u.keepRefresh id q).2) := by
    simp only [r, conclude, hend]
    rfl
  obtain ⟨hk, hf⟩ := keepRefresh_task? (γ := γ) (s := u) h q
  obtain ⟨hs, ha⟩ := u.keepRefresh_state (γ := γ) id q
  rw [hr]
  refine ⟨hk, ?_, ?_, ?_, ?_, fun result => ?_⟩
  · rw [hs]
  · rw [hs]
  · rw [hs]
  · rw [asked_append, ha, List.append_nil, hasked]
  · rw [List.mem_append, ← hf result]
    refine ⟨fun hm => hm.resolve_left fun hm => ?_, .inr⟩
    have := hnobody _ hm
    simp [CacheEffect.task?] at this

/-- A refresh goes on with what the end of one of its questions has brought. -/
theorem CacheState.Pursues.step_ended {s : CacheState} (hn : s.Numbered)
    {outcome : String → Option Answer} {run : List (CacheEvent γ)} {pass pass' : Pass}
    (h : s.Pursues outcome run pass) {e : CacheEvent γ} {flight : Flight}
    (hended : (s.after run).ended? e
      = some (.refresh s.nextTask pass' flight, outcome flight.host)) :
    ∃ next, s.Pursues outcome (run ++ [e]) next := by
  have ht : (s.after run).Numbered := hn.after run
  obtain ⟨hm, hflight⟩ := waits_of_ended hended
  have hwaits := ht.task?_of_mem hm
  obtain ⟨hundone, rfl⟩ : ¬ pass.isDone ∧ pass = pass' := by
    have := h.task?.symm.trans hwaits
    split_ifs at this with hd
    exact ⟨hd, by simpa using this⟩
  have hknown : flight.host ∈ (s.after run).entries.hosts := by
    rw [h.entries, Entries.hosts_renewed]
    refine h.hosts.subset (List.mem_append_right _ (List.mem_append_left _ ?_))
    exact List.mem_map_of_mem hflight
  set result := resolved flight.host s.settings.lookupTimeout (outcome flight.host)
  have hperm := (pass.finish_perm (ht.calls_nodup_of_task hm) hflight result.isOk).map Flight.host
  rw [List.map_cons] at hperm
  obtain ⟨cancelled, -, hstep⟩ := step_of_ended hended
  have hconclude := conclude_refresh (γ := γ) (s := { s.after run with cancelled := cancelled })
    (Option.isSome_iff_exists.2 ⟨_, hwaits⟩) hknown pass (outcome flight.host)
  rw [← hstep] at hconclude
  simp only [h.settings] at hconclude
  obtain ⟨htask, hentries, hsettings, hnext, hasked, hfinished⟩ := hconclude
  set p := pass.finish flight result.isOk
  set limit := s.settings.lookupTimeout
  have hdone : s.endedBy s.nextTask (run ++ [e])
      = s.endedBy s.nextTask run ++ [flight.host] := by
    rw [endedBy_append, endedBy_singleton hended]
  have hasks : s.askedBy s.nextTask (run ++ [e])
      = s.askedBy s.nextTask run
        ++ p.starting (s.after run).now limit (s.after run).nextCall := by
    have hsubject : (s.after run).subject? e = some s.nextTask := by
      obtain ⟨call, given, cancels, rfl⟩ := answer_of_ended hended
      simp only [subject?, (owner_of_ended hended).1, Option.bind_some, Owner.id?]
    rw [askedBy_append]
    simp only [askedBy, if_pos hsubject, hasked, List.append_nil]
  refine ⟨p.fill (s.after run).now limit (s.after run).nextCall, ?_, ?_, ?_, ?_, ?_, ?_, ?_, ?_, ?_⟩
  · rw [after_append, after_singleton, hnext]
    exact h.id_lt
  · rw [after_append, after_singleton, hsettings]
  · rw [after_append, after_singleton, htask]
  · rw [after_append, after_singleton, hentries, h.entries, Entries.renewed_renewed, hdone]
    refine Entries.renewed_congr fun host _ => ?_
    by_cases hh : host = flight.host
    · subst hh
      by_cases hr : flight.host ∈ s.endedBy s.nextTask run <;> simp [hr, limit]
    · simp [hh]
  · rw [hdone, Pass.fill_hosts, List.append_assoc]
    refine List.Perm.trans (List.Perm.append_left _ ?_) h.hosts
    exact (hperm.append_right p.unstarted).symm
  · rw [hdone, hasks, List.map_append, Pass.fill, List.map_append, ← List.append_assoc]
    refine List.Perm.append_right _ (h.asked.trans ?_)
    rw [List.append_assoc]
    exact List.Perm.append_left _ hperm
  · rw [hdone, List.countP_append, ← h.replaced, List.countP_singleton]
    simp only [Pass.replaced, Pass.fill, p, Pass.finish, List.countP_append, List.countP_singleton]
    rfl
  · refine Pass.fill_window (Nat.le_trans ?_ h.window.1) _ _ _
    exact List.length_filter_le _ _
  · intro result
    rw [effects_append, effects_singleton, List.mem_append, h.finished result, hfinished]
    exact ⟨fun hm => hm.resolve_left fun hm => hundone hm.1, .inr⟩

/-- While nothing interferes, a refresh goes on from where it was. -/
theorem CacheState.Pursues.step {s : CacheState} (hn : s.Numbered)
    {outcome : String → Option Answer} {run : List (CacheEvent γ)} {pass : Pass}
    (h : s.Pursues outcome run pass) {e : CacheEvent γ}
    (hu : Undisturbed s.nextTask outcome (s.after run) e) :
    ∃ pass', s.Pursues outcome (run ++ [e]) pass' := by
  have ht : (s.after run).Numbered := hn.after run
  by_cases hended : ∃ pass flight answer,
      (s.after run).ended? e = some (.refresh s.nextTask pass flight, answer)
  case neg =>
    have hended : ∀ pass flight answer,
        (s.after run).ended? e ≠ some (.refresh s.nextTask pass flight, answer) :=
      fun pass flight answer he => hended ⟨pass, flight, answer, he⟩
    have htask : ∀ task, (s.after run).task? s.nextTask = some task → task = .refreshing pass := by
      intro task ht'
      have := h.task?.symm.trans ht'
      split_ifs at this
      exact (Option.some.inj this).symm
    obtain ⟨hkept, hnothing, hnone⟩ := step_beside ht h.id_lt hu.kept
      (fun request attempts ht' => by simpa using htask _ ht')
      (fun goal flight ht' => by simpa using htask _ ht') (fun owner answer he hid => by
        rcases (waits_of_ended he).task? ht hid with ⟨goal, flight, rfl, ht'⟩
          | ⟨pass', flight, rfl, ht'⟩
        · simpa using htask _ ht'
        · exact hended pass' flight answer he)
    have hcount := step_counted ht e
    have hstill : s.endedBy s.nextTask (run ++ [e]) = s.endedBy s.nextTask run := by
      rw [endedBy_append, endedBy_singleton_of_ne hended, List.append_nil]
    have hasks : s.askedBy s.nextTask (run ++ [e]) = s.askedBy s.nextTask run := by
      rw [askedBy_append]
      simp only [askedBy, List.append_nil]
      split
      · rename_i hs
        rw [hnone hs, List.append_nil]
      · rw [List.append_nil]
    refine ⟨pass, ?_, ?_, ?_, ?_, ?_, ?_, ?_, h.window, ?_⟩
    · obtain ⟨started, hnext, -⟩ := hcount.tasks
      rw [after_append, after_singleton, hnext]
      exact Nat.lt_add_right started h.id_lt
    · rw [after_append, after_singleton, hcount.settings, h.settings]
    · rw [after_append, after_singleton, hkept, h.task?]
    · rw [after_append, after_singleton, hu.alone hended, h.entries, hstill]
    · rw [hstill]
      exact h.hosts
    · rw [hstill, hasks]
      exact h.asked
    · rw [hstill]
      exact h.replaced
    · intro result
      rw [effects_append, effects_singleton, List.mem_append, h.finished result]
      exact ⟨fun hm => hm.resolve_right fun hm => hnothing _ hm rfl, .inl⟩
  case pos =>
    obtain ⟨pass', flight, answer, hended⟩ := hended
    obtain rfl := hu.answer _ _ _ hended
    exact h.step_ended hn hended

/-- Where nothing interferes, a refresh stays with its pass. The induction is by the last step, as
`Pursues` is about the state that a run has led to. -/
theorem CacheState.Numbered.pursues {s : CacheState} (hn : s.Numbered) (order : List String)
    {outcome : String → Option Answer} {es : List (CacheEvent γ)}
    (hu : Throughout (Undisturbed s.nextTask outcome)
      (s.step (.start (.refresh order) : CacheEvent γ)).1 es) :
    ∃ pass, s.Pursues outcome (.start (.refresh order) :: es) pass := by
  induction es using List.reverseRecOn with
  | nil => exact ⟨_, hn.pursues_start outcome order⟩
  | append_singleton es e ih =>
    obtain ⟨hes, he, -⟩ := throughout_append.1 hu
    obtain ⟨pass, h⟩ := ih hes
    exact h.step hn he

/-- A pass is done when the questions of all known hosts have ended. -/
theorem CacheState.Pursues.isDone_iff {s : CacheState} {outcome : String → Option Answer}
    {run : List (CacheEvent γ)} {pass : Pass} (h : s.Pursues outcome run pass) :
    pass.isDone ↔ (s.endedBy s.nextTask run).length = s.entries.hosts.length := by
  have hl := h.hosts.length_eq
  simp only [List.length_append, List.length_map] at hl
  simp only [Pass.isDone, Bool.and_eq_true, List.isEmpty_iff, ← List.length_eq_zero_iff]
  omega

theorem CacheState.Pursues.perm_of_isDone {s : CacheState} {outcome : String → Option Answer}
    {run : List (CacheEvent γ)} {pass : Pass} (h : s.Pursues outcome run pass)
    (hd : pass.isDone) :
    (s.endedBy s.nextTask run).Perm s.entries.hosts
      ∧ ((s.askedBy s.nextTask run).map Flight.host).Perm s.entries.hosts := by
  obtain ⟨hu, hf⟩ : pass.unstarted = [] ∧ pass.inFlight = [] := by
    simpa [Pass.isDone] using hd
  have hhosts := h.hosts
  have hasked := h.asked
  rw [hu, hf, List.map_nil, List.append_nil, List.append_nil] at hhosts
  rw [hf, List.map_nil, List.append_nil] at hasked
  exact ⟨hhosts, hasked.trans hhosts⟩

/-- A pass that is not done waits for a question, and the answer to any that it waits for ends
it. -/
theorem CacheState.Pursues.waits {s : CacheState} (hn : s.Numbered)
    {outcome : String → Option Answer} {run : List (CacheEvent γ)} {pass : Pass}
    (h : s.Pursues outcome run pass) (hd : ¬ pass.isDone) :
    (s.after run).task? s.nextTask = some (.refreshing pass) ∧ pass.inFlight ≠ []
      ∧ ∀ flight ∈ pass.inFlight, ∀ given answer cancels,
        flight.outcome? (s.after run).now given = some answer →
          (s.after run).ended? (.answer flight.call given cancels : CacheEvent γ)
            = some (.refresh s.nextTask pass flight, answer) := by
  have ht := h.task?
  rw [if_neg hd] at ht
  refine ⟨ht, fun hnil => hd ?_, fun flight hf given answer cancels ha => ?_⟩
  · rcases h.window.2 with hu | hl
    · simp [Pass.isDone, hu, hnil]
    · simp [hnil, passWindow] at hl
  · have hm := mem_tasks_of_task? ht
    have hcalls := (hn.after run).calls_nodup_of_task hm
    have howner : (Task.refreshing pass).owner? s.nextTask flight.call
        = some (.refresh s.nextTask pass flight) := by
      simp only [Task.owner?, Pass.find?_of_mem hcalls hf, Option.map_some]
    simp only [ended?, (hn.after run).owner?_of_task hm howner, Owner.cancelled?, Owner.flight, ha,
      Option.map_some]

/-- A refresh with which nothing interferes, from any state and whatever the order in which its
hosts are taken and its questions end. It never asks for a host twice or for one that is not
known. It ends when the questions of all hosts have ended, which a question in the air brings
nearer until then; by then it has asked for every host, each host that has new addresses has them,
all else is as it was, and it says how many those are, as one host after another would. -/
theorem CacheState.refresh_pass_pointwise {s : CacheState} (hs : s.Reachable γ)
    (order : List String) (outcome : String → Option Answer) {es : List (CacheEvent γ)}
    (hu : Throughout (Undisturbed s.nextTask outcome)
      (s.step (.start (.refresh order) : CacheEvent γ)).1 es) :
    let id := s.nextTask
    let run := .start (.refresh order) :: es
    let limit := s.settings.lookupTimeout
    let isDone := (s.endedBy id run).length = s.entries.hosts.length
    let n := s.entries.hosts.countP fun host => (resolved host limit (outcome host)).isOk
    ((s.askedBy id run).map Flight.host).Subperm s.entries.hosts
    ∧ (s.endedBy id run).Subperm s.entries.hosts
    ∧ s.entries.hosts.Nodup
    ∧ (s.after run).entries.hosts = s.entries.hosts
    ∧ (∀ result, .finished id result ∈ s.effects run ↔ isDone ∧ result = .refreshed n)
    ∧ (isDone →
      ((s.askedBy id run).map Flight.host).Perm s.entries.hosts
      ∧ (∀ host, (s.after run).entries.get? host =
        match resolved host limit (outcome host) with
        | .ok addresses => (s.entries.get? host).map fun _ => addresses
        | .error _ => s.entries.get? host)
      ∧ ∀ (σ : Type) (w : σ), refreshNow (fun host w => (outcome host, w)) limit ⟨s.entries, w⟩
        = (n, ⟨(s.after run).entries, w⟩))
    ∧ (¬ isDone →
      ∃ pass, (s.after run).task? id = some (.refreshing pass) ∧ pass.inFlight ≠ []
        ∧ ∀ flight ∈ pass.inFlight, ∀ given answer cancels,
          flight.outcome? (s.after run).now given = some answer →
            (s.after run).ended? (.answer flight.call given cancels : CacheEvent γ)
              = some (.refresh id pass flight, answer)) := by
  intro id run limit isDone n
  have hn := hs.numbered
  obtain ⟨pass, h⟩ := hn.pursues order hu
  have hended : (s.endedBy id run).Subperm s.entries.hosts :=
    (List.sublist_append_left _ _).subperm.trans h.hosts.subperm
  have hasked : ((s.askedBy id run).map Flight.host).Subperm s.entries.hosts := by
    refine h.asked.subperm.trans (List.Subperm.trans ?_ h.hosts.subperm)
    exact ((List.Sublist.refl _).append (List.sublist_append_left _ _)).subperm
  refine ⟨hasked, hended, hs.hosts_nodup, ?_, fun result => ?_, fun hd => ?_, fun hd => ?_⟩
  · rw [h.entries, Entries.hosts_renewed]
  · rw [h.finished result, h.isDone_iff]
    refine and_congr_right fun hd => ?_
    rw [h.replaced, (h.perm_of_isDone (h.isDone_iff.2 hd)).1.countP_eq]
  · obtain ⟨hp, ha⟩ := h.perm_of_isDone (h.isDone_iff.2 hd)
    have hentries : (s.after run).entries
        = s.entries.renewed fun host => (resolved host limit (outcome host)).toOption := by
      rw [h.entries]
      refine Entries.renewed_congr fun host hm => ?_
      rw [if_pos (hp.mem_iff.2 hm)]
    refine ⟨ha, fun host => ?_, fun σ w => ?_⟩
    · rw [hentries, Entries.get?_renewed]
      rcases resolved host limit (outcome host) with error | addresses
      · cases s.entries.get? host <;> rfl
      · rfl
    · rw [refreshNow, refreshHosts_eq outcome limit w _ (List.Subset.refl _), hentries]
      refine congrArg (fun e => (n, Surroundings.mk e w)) (Entries.renewed_congr fun host hm => ?_)
      rw [if_pos hm]
  · exact ⟨pass, h.waits hn fun hd' => hd (h.isDone_iff.1 hd')⟩

/-- Two hosts are known and asked for again. One has no answer any more, and that is known before
the other has a new one. -/
theorem CacheState.refresh_pass_of_two :
    let known : List (CacheEvent Unit) :=
      [.start (.lookup "a"), .answer 0 (some (.ok ["10.0.0.1"])) none,
        .start (.prewarm "b"), .answer 1 (some (.ok ["10.0.0.2"])) none]
    let s := (CacheState.fresh .default ⟨0⟩).after known
    let run : List (CacheEvent Unit) :=
      [.start (.refresh ["b", "a"]), .answer 3 (some (.error (noSuchHost "a"))) none,
        .answer 2 (some (.ok ["10.0.0.3"])) none]
    (s.after run).entries.get? "a" = some ["10.0.0.1"]
      ∧ (s.after run).entries.get? "b" = some ["10.0.0.3"]
      ∧ .finished 2 (.refreshed 1) ∈ s.effects run := by
  intro known s run
  let outcome : String → Option Answer := fun host =>
    if host = "a" then some (.error (noSuchHost "a")) else some (.ok ["10.0.0.3"])
  let flight : Nat → String → Flight := fun call host =>
    .start call host ⟨0⟩ Settings.default.lookupTimeout
  have hfirst : (s.after (run.take 1)).ended? (.answer 3 (some (.error (noSuchHost "a"))) none
      : CacheEvent Unit) = some (.refresh 2 ⟨[], [flight 2 "b", flight 3 "a"], []⟩ (flight 3 "a"),
        outcome "a") := by rfl
  have hsecond : (s.after (run.take 2)).ended? (.answer 2 (some (.ok ["10.0.0.3"])) none
      : CacheEvent Unit) = some (.refresh 2 ⟨[], [flight 2 "b"], [("a", false)]⟩ (flight 2 "b"),
        outcome "b") := by rfl
  have hended : (s.endedBy 2 run).length = s.entries.hosts.length := by rfl
  have hs : s.Reachable Unit := ⟨_, _, known, rfl⟩
  have hu : Throughout (Undisturbed 2 outcome) (s.after (run.take 1)) run.tail :=
    ⟨.of_ended hfirst, .of_ended hsecond, trivial⟩
  obtain ⟨-, -, -, -, hfinished, hdone, -⟩ := refresh_pass_pointwise hs ["b", "a"] outcome hu
  obtain ⟨-, hentry, -⟩ := hdone hended
  have ha : (s.after run).entries.get? "a" = some ["10.0.0.1"] := (hentry "a").trans rfl
  have hb : (s.after run).entries.get? "b" = some ["10.0.0.3"] := (hentry "b").trans rfl
  exact ⟨ha, hb, (hfinished _).2 ⟨hended, rfl⟩⟩

end HostDialing

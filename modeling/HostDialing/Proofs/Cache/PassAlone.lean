import HostDialing.Proofs.Cache.Attending

/-!
# A pass alone

A pass that is all that is under way asks for each of its hosts once, so each answer is the one that
the resolver has for a host of which it was asked as often as when the pass began, in whichever
order the questions end. `Pass.Counted` is the invariant that says so, and from it follows what a
pass comes to (`Peers.pass_attend`), be it that of a refresh or of the background task.
-/

namespace HostDialing

variable {γ : Type}

/-- The hosts of a pass are different ones, each of which the resolver was asked for `calls` times
before the question of the pass. -/
structure Pass.Counted (p : Pass) (calls : String → Nat) (past : List (CacheEffect γ))
    (nextCall : Nat) : Prop where
  hosts : p.pending.Nodup
  numbers : (p.inFlight.map Flight.call).Nodup
  lt : ∀ flight ∈ p.inFlight, flight.call < nextCall
  asked : ∀ flight ∈ HostDialing.asked past, flight.call < nextCall
  inFlight : ∀ flight ∈ p.inFlight, callsBefore past flight = calls flight.host
  unstarted : ∀ host ∈ p.unstarted, callsFor past host = calls host

theorem Pass.Counted.over {hosts : List String} (hn : hosts.Nodup) {past : List (CacheEffect γ)}
    {nextCall : Nat} (hasked : ∀ flight ∈ HostDialing.asked past, flight.call < nextCall) :
    (Pass.over hosts).Counted (callsFor past) past nextCall :=
  ⟨hn, List.nodup_nil, by simp [Pass.over], hasked, by simp [Pass.over], fun _ _ => rfl⟩

theorem Pass.Counted.finish {p : Pass} {calls : String → Nat} {past : List (CacheEffect γ)}
    {nextCall : Nat} (h : p.Counted calls past nextCall) (flight : Flight) (isReplaced : Bool) :
    (p.finish flight isReplaced).Counted calls past nextCall where
  hosts := h.hosts.sublist ((List.filter_sublist.map _).append (List.Sublist.refl _))
  numbers := h.numbers.sublist (List.filter_sublist.map _)
  lt other ho := h.lt other (List.mem_of_mem_filter ho)
  asked := h.asked
  inFlight other ho := h.inFlight other (List.mem_of_mem_filter ho)
  unstarted := h.unstarted

theorem Pass.Counted.fill {p : Pass} {calls : String → Nat} {past effects : List (CacheEffect γ)}
    {nextCall : Nat} (h : p.Counted calls past nextCall) {now : Instant} {limit : Duration}
    (he : HostDialing.asked effects = p.starting now limit nextCall) :
    (p.fill now limit nextCall).Counted calls (past ++ effects)
      (nextCall + (p.starting now limit nextCall).length) := by
  set new := p.starting now limit nextCall
  have hcalls : new.map Flight.call = List.range' nextCall new.length :=
    (p.fill_starting now limit nextCall).2
  have hcall : ∀ flight ∈ new,
      nextCall ≤ flight.call ∧ flight.call < nextCall + new.length := fun flight hf => by
    have hm : flight.call ∈ new.map Flight.call := List.mem_map_of_mem hf
    rwa [hcalls, List.mem_range'_1] at hm
  have hhost : ∀ flight ∈ new, flight.host ∈ p.unstarted := fun flight hf => by
    have hm : flight.host ∈ new.map Flight.host := List.mem_map_of_mem hf
    rw [p.starting_hosts] at hm
    exact List.mem_of_mem_take hm
  have hpending := h.hosts
  rw [Pass.pending, List.nodup_append] at hpending
  have hnew : (new.map Flight.host).Nodup := by
    rw [p.starting_hosts]
    exact hpending.2.1.sublist (List.take_sublist _ _)
  refine ⟨?_, ?_, ?_, ?_, ?_, ?_⟩
  · rw [pending_fill]
    exact h.hosts
  · simp only [Pass.fill, List.map_append]
    refine List.nodup_append.2 ⟨h.numbers, hcalls ▸ List.nodup_range', ?_⟩
    intro a ha b hb
    obtain ⟨flight, hf, rfl⟩ := List.mem_map.1 ha
    obtain ⟨other, ho, rfl⟩ := List.mem_map.1 hb
    have := h.lt flight hf
    have := (hcall other ho).1
    omega
  · intro flight hf
    rcases List.mem_append.1 hf with hf | hf
    · have := h.lt flight hf
      omega
    · exact (hcall flight hf).2
  · intro flight hf
    rw [asked_append, he] at hf
    rcases List.mem_append.1 hf with hf | hf
    · have := h.asked flight hf
      omega
    · exact (hcall flight hf).2
  · intro flight hf
    rcases List.mem_append.1 hf with hf | hf
    · rw [callsBefore_append_of, h.inFlight flight hf]
      intro other ho _
      rw [he] at ho
      have := h.lt flight hf
      have := (hcall other ho).1
      omega
    · rw [callsBefore_append_of, callsBefore_eq_callsFor, h.unstarted _ (hhost flight hf)]
      · intro other ho
        have := h.asked other ho
        have := (hcall flight hf).1
        omega
      · intro other ho hh
        rw [he] at ho
        rw [List.inj_on_of_nodup_map hnew ho hf hh]
  · intro host hm
    have hdrop : host ∈ p.unstarted.drop (passWindow - p.inFlight.length) := hm
    rw [callsFor_append, callsFor_eq_count effects, he, p.starting_hosts,
      List.count_eq_zero_of_not_mem, Nat.add_zero, h.unstarted host (List.mem_of_mem_drop hdrop)]
    have hsplit := hpending.2.1
    rw [← List.take_append_drop (passWindow - p.inFlight.length) p.unstarted,
      List.nodup_append] at hsplit
    exact fun ht => hsplit.2.2 host ht host hdrop rfl

/-- A pass is all that is under way: that of a refresh, or that of the background task. -/
def CacheState.Makes (s : CacheState) (who : Option Nat) (p : Pass) : Prop :=
  match who with
  | some id => s.tasks = [(id, .refreshing p)] ∧ s.background.pass? = none
  | none => s.tasks = [] ∧ ∃ ticker, s.background = .passing ticker p

/-- A pass is all that is under way, or is done. -/
def CacheState.Leaves (s : CacheState) (who : Option Nat) (p : Pass) : Prop :=
  if p.isDone then s.IsQuiet else s.Makes who p

theorem CacheState.keepRefresh_leaves {s : CacheState} {id : Nat} {t : Task}
    (ht : s.tasks = [(id, t)]) (hb : s.background.pass? = none) (p : Pass) :
    (s.keepRefresh id p : Stepped γ).1.Leaves (some id) p
      ∧ ∀ task, resultsOf task (s.keepRefresh id p : Stepped γ).2
        = if some id = some task ∧ p.isDone then [.refreshed p.replaced] else [] := by
  unfold keepRefresh Leaves
  by_cases hd : p.isDone
  · simp only [if_pos hd]
    have hnone : (s.removeTask id).tasks = [] := by simp [removeTask, ht]
    refine ⟨⟨hnone, ?_⟩, fun task => ?_⟩
    · rw [passes, hnone]
      simp [removeTask, hb]
    · by_cases hid : id = task <;> simp [resultsOf, hd, hid]
  · simp only [if_neg hd]
    exact ⟨⟨by simp [setTask, ht], hb⟩, fun task => by simp [resultsOf, hd]⟩

theorem CacheState.keepBackground_leaves {s : CacheState} (ht : s.tasks = []) (ticker : Ticker)
    (p : Pass) : (s.keepBackground ticker p).Leaves none p := by
  unfold keepBackground Leaves
  by_cases hd : p.isDone
  · simp only [if_pos hd]
    exact ⟨ht, by simp [passes, ht, Background.pass?]⟩
  · simp only [if_neg hd]
    exact ⟨ht, ticker, rfl⟩

theorem resultsOf_eq_nil {effects : List (CacheEffect γ)}
    (h : ∀ effect ∈ effects, effect.task? = none) (task : Nat) : resultsOf task effects = [] :=
  (connectsOf_eq_nil fun effect he => by simp [h effect he]).2

/-- A question of the pass has ended. -/
theorem CacheState.Makes.conclude {s : CacheState} {who : Option Nat} {p : Pass}
    (h : s.Makes who p) (hk : p.pending ⊆ s.entries.hosts) {owner : Owner} (hw : owner.Waits s)
    (answer : Option Answer) :
    let flight := owner.flight
    let result := resolved flight.host s.settings.lookupTimeout answer
    let rest := p.finish flight result.isOk
    let q := rest.fill s.now s.settings.lookupTimeout s.nextCall
    let new := rest.starting s.now s.settings.lookupTimeout s.nextCall
    let r : Stepped γ := s.conclude answer owner
    flight ∈ p.inFlight ∧ r.1.Leaves who q ∧ asked r.2 = new
      ∧ (∃ background tasks, r.1 = { s with
        entries := s.entries.renewed fun host =>
          if host = flight.host then result.toOption else none
        nextCall := s.nextCall + new.length
        background := background
        tasks := tasks })
      ∧ ∀ task, resultsOf task r.2
        = if who = some task ∧ q.isDone then [.refreshed q.replaced] else [] := by
  intro flight result rest q new r
  have hmem : ∀ f ∈ p.inFlight, f.host ∈ s.entries.hosts := fun f hf =>
    hk (List.mem_append_left _ (List.mem_map_of_mem hf))
  rcases owner with ⟨id, goal, f⟩ | ⟨id, pass, f⟩ | ⟨ticker, pass, f⟩
  · rcases who with _ | id'
    · simp [Owner.Waits, h.1] at hw
    · simp [Owner.Waits, h.1] at hw
  · rcases who with _ | id'
    · simp [Owner.Waits, h.1] at hw
    obtain ⟨hm, hf⟩ := hw
    obtain ⟨rfl, rfl⟩ : id = id' ∧ pass = p := by simpa [h.1] using hm
    obtain ⟨said, hend, hasked, hnobody⟩ := endQuestion_known (γ := γ) (hmem f hf) pass answer
    set u : CacheState := { s with
      entries := s.entries.renewed fun host => if host = f.host then result.toOption else none
      nextCall := s.nextCall + new.length }
    have hr : r = ((u.keepRefresh id q : Stepped γ).1, said ++ (u.keepRefresh id q).2) := by
      simp only [r, CacheState.conclude, hend]
      rfl
    obtain ⟨hleaves, hresults⟩ := keepRefresh_leaves (γ := γ) (s := u) h.1 h.2 q
    obtain ⟨hstate, hnone⟩ := u.keepRefresh_state (γ := γ) id q
    rw [hr]
    refine ⟨hf, hleaves, ?_, ⟨u.background, _, hstate⟩, fun task => ?_⟩
    · rw [asked_append, hnone, List.append_nil]
      exact hasked
    · rw [resultsOf_append, resultsOf_eq_nil hnobody, List.nil_append, hresults]
  · rcases who with _ | id'
    · obtain ⟨hb, hf⟩ := hw
      obtain ⟨ht, ticker', hb'⟩ := h
      obtain ⟨rfl, rfl⟩ : ticker = ticker' ∧ pass = p := by simpa using hb.symm.trans hb'
      obtain ⟨said, hend, hasked, hnobody⟩ := endQuestion_known (γ := γ) (hmem f hf) pass answer
      set u : CacheState := { s with
        entries := s.entries.renewed fun host => if host = f.host then result.toOption else none
        nextCall := s.nextCall + new.length }
      have hr : r = (u.keepBackground ticker q, said) := by
        simp only [r, CacheState.conclude, hend]
        rfl
      rw [hr]
      refine ⟨hf, keepBackground_leaves (s := u) ht ticker q, hasked, ⟨_, u.tasks, rfl⟩,
        fun task => ?_⟩
      rw [resultsOf_eq_nil hnobody]
      simp
    · exact absurd h.2 (by simp [hw.1, Background.pass?])

theorem CacheState.Makes.not_isQuiet {s : CacheState} {who : Option Nat} {p : Pass}
    (h : s.Makes who p) : ¬ s.IsQuiet := by
  intro hq
  rcases who with _ | id
  · obtain ⟨-, ticker, hb⟩ := h
    exact absurd (mem_passes.2 (.inr ⟨ticker, hb⟩)) (by simp [hq.passes])
  · exact absurd hq.tasks (by simp [h.1])

/-- Each host that was pending is the one whose question has ended, or is still pending. -/
theorem Pass.pending_perm {p : Pass} (hn : (p.inFlight.map Flight.call).Nodup) {flight : Flight}
    (h : flight ∈ p.inFlight) (isReplaced : Bool) (now : Instant) (limit : Duration)
    (call : Nat) :
    p.pending.Perm
      (flight.host :: ((p.finish flight isReplaced).fill now limit call).pending) := by
  rw [pending_fill]
  exact ((p.finish_perm hn h isReplaced).map Flight.host).append_right p.unstarted

theorem Pass.replaced_finish (p : Pass) (flight : Flight) (isReplaced : Bool) (now : Instant)
    (limit : Duration) (call : Nat) :
    ((p.finish flight isReplaced).fill now limit call).replaced
      = p.replaced + isReplaced.toNat := by
  simp only [replaced, fill, finish, List.countP_append, List.countP_singleton]
  cases isReplaced <;> rfl

theorem Pass.pending_of_isDone {p : Pass} (h : p.isDone) : p.pending = [] ∧ p.unstarted = [] := by
  obtain ⟨hu, hf⟩ : p.unstarted = [] ∧ p.inFlight = [] := by simpa [isDone] using h
  exact ⟨by simp [pending, hu, hf], hu⟩

namespace Peers

variable {w : Peers γ}

/-- What the hosts of a pass have come to. -/
def outcome (w : Peers γ) (limit : Duration) (calls : String → Nat) (host : String) :
    Except ResolutionError (List String) :=
  resolved host limit (w.answers host (calls host))

/-- What a run from `s` to `s'` makes of a pass: it asks for each host that the pass has not begun
with, and in the end each host that was pending has its new addresses, if it has any. -/
structure Finishes (w : Peers γ) (who : Option Nat) (calls : String → Nat) (p : Pass)
    (s s' : CacheState) (effects : List (CacheEffect γ)) : Prop where
  entries : s'.entries = s.entries.renewed fun host =>
    if host ∈ p.pending then (w.outcome s.settings.lookupTimeout calls host).toOption else none
  asked : ((asked effects).map Flight.host).Perm p.unstarted
  results : ∀ task, resultsOf task effects = if who = some task ∧ ¬ p.isDone then
    [.refreshed (p.replaced + p.pending.countP fun host =>
      (w.outcome s.settings.lookupTimeout calls host).isOk)] else []

theorem Finishes.of_isDone {who : Option Nat} {calls : String → Nat} {p : Pass} (h : p.isDone)
    {s s' : CacheState} (hs : s'.entries = s.entries) :
    w.Finishes who calls p s s' ([] : List (CacheEffect γ)) := by
  obtain ⟨hpending, hunstarted⟩ := Pass.pending_of_isDone h
  refine ⟨?_, ?_, fun task => by simp [resultsOf, h]⟩
  · simp only [hs, hpending, List.not_mem_nil, if_false, Entries.renewed_none]
  · rw [hunstarted]
    exact List.Perm.refl _

/-- The question of one host has ended, and others have been begun. -/
theorem Finishes.prepend {who : Option Nat} {calls : String → Nat} {p q : Pass}
    {s t s' : CacheState} {effects effects' : List (CacheEffect γ)}
    (h : w.Finishes who calls q t s' effects') {host : String} {new : List Flight}
    (hsettings : t.settings = s.settings)
    (hentries : t.entries = s.entries.renewed fun other => if other = host then
      (w.outcome s.settings.lookupTimeout calls host).toOption else none)
    (hperm : p.pending.Perm (host :: q.pending)) (hnodup : p.pending.Nodup)
    (hunstarted : p.unstarted = new.map Flight.host ++ q.unstarted)
    (hasked : HostDialing.asked effects = new) (hp : ¬ p.isDone)
    (hreplaced : q.replaced
      = p.replaced + (w.outcome s.settings.lookupTimeout calls host).isOk.toNat)
    (hresults : ∀ task, resultsOf task effects
      = if who = some task ∧ q.isDone then [.refreshed q.replaced] else []) :
    w.Finishes who calls p s s' (effects ++ effects') := by
  have hhost : host ∉ q.pending := (List.nodup_cons.1 (hperm.nodup_iff.1 hnodup)).1
  refine ⟨?_, ?_, fun task => ?_⟩
  · rw [h.entries, hentries, hsettings, Entries.renewed_renewed]
    refine Entries.renewed_congr fun other _ => ?_
    simp only [hperm.mem_iff, List.mem_cons]
    by_cases ho : other = host
    · simp [ho, hhost]
    · simp [ho]
  · rw [asked_append, List.map_append, hasked, hunstarted]
    exact h.asked.append_left _
  · set isOk := fun host => (w.outcome s.settings.lookupTimeout calls host).isOk
    have hcount : p.replaced + p.pending.countP isOk = q.replaced + q.pending.countP isOk := by
      rw [hperm.countP_eq, List.countP_cons, hreplaced]
      change _ = p.replaced + (isOk host).toNat + _
      rcases isOk host with _ | _
      · rfl
      · simp only [if_true, Bool.toNat_true]
        omega
    rw [resultsOf_append, hresults, h.results, hsettings, hcount]
    by_cases hd : q.isDone
    · simp [hd, hp, (Pass.pending_of_isDone hd).1]
    · simp [hd, hp, isOk]

/-- A pass that is alone. -/
theorem pass_attend {who : Option Nat} {calls : String → Nat} {es : List (CacheEvent γ)}
    (hes : ∀ e ∈ es, e.Attends) :
    ∀ {s : CacheState} {p : Pass} {past : List (CacheEffect γ)}, s.Leaves who p →
      s.cancelled = [] → p.pending ⊆ s.entries.hosts → p.Counted calls past s.nextCall →
      w.Serve past s es → (s.after es).IsQuiet →
        w.Finishes who calls p s (s.after es) (s.effects es) := by
  induction es with
  | nil =>
    intro s p past hm _ _ _ _ hq
    by_cases hd : p.isDone
    · exact .of_isDone hd rfl
    · rw [CacheState.Leaves, if_neg hd] at hm
      exact absurd hq hm.not_isQuiet
  | cons e es ih =>
    intro s p past hm hc hk hp hw hq
    by_cases hd : p.isDone
    · rw [CacheState.Leaves, if_pos hd] at hm
      obtain ⟨heffects, nanos, hafter⟩ := hm.attend hc hes
      rw [heffects, hafter]
      exact .of_isDone hd rfl
    rw [CacheState.Leaves, if_neg hd] at hm
    obtain ⟨he, hes⟩ := List.forall_mem_cons.1 hes
    obtain ⟨hcomes, hw⟩ := hw
    rcases CacheState.attends_cases hc he with ⟨owner, answer, hended, hs⟩
      | ⟨id, request, attempts, _, -, ht⟩ | ⟨nanos, hs⟩
    · obtain ⟨hflight, hleaves, hasked, ⟨background, tasks, hstate⟩, hresults⟩ :=
        hm.conclude (γ := γ) hk (CacheState.waits_of_ended hended) answer
      set flight := owner.flight
      have hanswer : resolved flight.host s.settings.lookupTimeout answer
          = w.outcome s.settings.lookupTimeout calls flight.host := by
        rw [hcomes.answer owner answer hended, hp.inFlight flight hflight]
        rfl
      simp only [hanswer, ← hs] at hleaves hasked hstate hresults
      set rest := p.finish flight (w.outcome s.settings.lookupTimeout calls flight.host).isOk
      set q := rest.fill s.now s.settings.lookupTimeout s.nextCall
      have hperm : p.pending.Perm (flight.host :: q.pending) :=
        p.pending_perm hp.numbers hflight _ _ _ _
      have hcounted := (hp.finish flight _).fill hasked
      have hunstarted : p.unstarted = (rest.starting s.now s.settings.lookupTimeout
          s.nextCall).map Flight.host ++ q.unstarted := by
        rw [rest.starting_hosts]
        exact (List.take_append_drop _ _).symm
      have hentries : (s.step e).1.entries = _ := congrArg CacheState.entries hstate
      refine Finishes.prepend (ih hes hleaves ?_ ?_ ?_ hw hq) ?_ hentries hperm hp.hosts hunstarted
        hasked hd (p.replaced_finish flight _ _ _ _) hresults
      · rw [hstate]
        exact hc
      · rw [hentries, Entries.hosts_renewed]
        exact fun host hh => hk (hperm.mem_iff.2 (List.mem_cons_of_mem _ hh))
      · rw [hstate]
        exact hcounted
      · rw [hstate]
    · have hmem := CacheState.mem_tasks_of_task? ht
      rcases who with _ | id'
      · simp [hm.1] at hmem
      · simp [hm.1] at hmem
    · have hlater : (s.later nanos).Leaves who p := by
        rw [CacheState.Leaves, if_neg hd]
        rcases who with _ | id
        · exact hm
        · exact hm
      rw [hs, List.append_nil] at hw
      rw [CacheState.after, hs] at hq ⊢
      rw [CacheState.effects, hs]
      obtain ⟨hentries, hasked, hresults⟩ := ih hes hlater hc hk hp hw hq
      exact ⟨hentries, hasked, hresults⟩

end Peers

/-- The step begins a pass: a refresh does, and the background task where its tick is due. -/
def CacheState.Begins (s : CacheState) (who : Option Nat) : CacheEvent γ → Prop
  | .start (.refresh _) => who = some s.nextTask
  | .tick _ => who = none
    ∧ ∃ ticker, s.background = .waiting ticker ∧ ticker.isDue s.now ∧ s.isAlive
  | _ => False

theorem CacheState.IsQuiet.background {s : CacheState} (h : s.IsQuiet) :
    s.background.pass? = none := by
  have hp := h.passes
  rw [CacheState.passes, List.append_eq_nil_iff, Option.toList_eq_nil_iff] at hp
  exact hp.2

theorem CacheState.IsQuiet.begins {s : CacheState} (h : s.IsQuiet) {who : Option Nat}
    {e : CacheEvent γ} (he : s.Begins who e) :
    ∃ order, (s.step e).1.Leaves who (s.firstPass order)
      ∧ asked (s.step e).2 = s.firstAsked order
      ∧ (∃ background tasks nextTask, (s.step e).1 = { s with
        nextCall := s.nextCall + (s.firstAsked order).length
        background := background
        tasks := tasks
        nextTask := nextTask })
      ∧ ∀ task, resultsOf task (s.step e).2 = if who = some task ∧ (s.firstPass order).isDone then
        [.refreshed (s.firstPass order).replaced] else [] := by
  have hnobody : ∀ flights : List Flight, ∀ task,
      resultsOf task (flights.map .resolve : List (CacheEffect γ)) = [] := by
    intro flights
    refine resultsOf_eq_nil fun effect hm => ?_
    obtain ⟨f, -, rfl⟩ := List.mem_map.1 hm
    rfl
  rcases e with request | ⟨call, given, cancels⟩ | ⟨task, outcome, cancels⟩ | token | task
    | _ | _ | _ | order | nanos
  case start =>
    rcases request with host | host | ⟨host, order⟩ | request | order
    case refresh =>
      obtain rfl : who = some s.nextTask := he
      have ht : (s.refreshing order).tasks
          = [(s.nextTask, .refreshing (Pass.over (s.passHosts order)))] := by
        simp [refreshing, addTask, h.tasks]
      obtain ⟨hleaves, hresults⟩ :=
        keepRefresh_leaves (γ := γ) ht h.background (s.firstPass order)
      obtain ⟨hstate, hnone⟩ :=
        (s.refreshing order).keepRefresh_state (γ := γ) s.nextTask (s.firstPass order)
      refine ⟨order, hleaves, ?_, ⟨_, _, _, hstate⟩, fun task => ?_⟩
      · rw [step, start_refresh, asked_append, asked_map_resolve, hnone, List.append_nil]
      · rw [step, start_refresh, resultsOf_append, hnobody, List.nil_append, hresults]
    all_goals exact he.elim
  case tick =>
    obtain ⟨rfl, ticker, hb, hdue, halive⟩ := he
    set u : CacheState := { s with nextCall := s.nextCall + (s.firstAsked order).length }
    have hstep : s.step (.tick order : CacheEvent γ) = (u.keepBackground (ticker.fire s.now)
        (s.firstPass order), (s.firstAsked order).map .resolve) := by
      simp only [step, takeTick, hb, hdue, halive]
      rfl
    rw [hstep]
    refine ⟨order, keepBackground_leaves (s := u) h.tasks _ _, asked_map_resolve _,
      ⟨_, s.tasks, s.nextTask, rfl⟩, fun task => ?_⟩
    rw [hnobody]
    simp
  all_goals exact he.elim

namespace Peers

variable {w : Peers γ}

/-- Asked for different hosts, the resolver says of each what it would have said at first. -/
theorem resolver_answers {calls : String → Nat} {hosts : List String} (hn : hosts.Nodup) :
    ∀ {calls' : String → Nat}, (∀ host ∈ hosts, calls' host = calls host) →
      Resolver.Answers w.resolver (fun host => w.answers host (calls host)) hosts calls'
        fun host => calls' host + hosts.count host := by
  induction hosts with
  | nil => exact fun _ => rfl
  | cons host hosts ih =>
    intro calls' h
    obtain ⟨hhost, hn⟩ := List.nodup_cons.1 hn
    obtain ⟨hfirst, h⟩ := List.forall_mem_cons.1 h
    have hcount : (fun other => calls' other + (host :: hosts).count other)
        = fun other => Function.update calls' host (calls' host + 1) other
          + hosts.count other := by
      funext other
      by_cases ho : other = host
      · subst ho
        simp [List.count_eq_zero_of_not_mem hhost]
      · simp [Function.update_of_ne ho, List.count_cons_of_ne (Ne.symm ho)]
    rw [hcount]
    refine ⟨by rw [resolver, hfirst], ih hn fun other ho => ?_⟩
    have hne : other ≠ host := fun hh => hhost (hh ▸ ho)
    exact (Function.update_of_ne hne _ _).trans (h other ho)

/-- What a pass comes to at once: the hosts are different ones, so none is asked for twice. -/
theorem refreshNow_eq (w : Peers γ) (limit : Duration) {e : Entries} {calls : String → Nat}
    (hn : e.hosts.Nodup) :
    refreshNow w.resolver limit ⟨e, calls⟩
      = (e.hosts.countP fun host => (w.outcome limit calls host).isOk,
        ⟨e.renewed fun host =>
          if host ∈ e.hosts then (w.outcome limit calls host).toOption else none,
        fun host => calls host + e.hosts.count host⟩) :=
  refreshHosts_of_answers limit (List.Subset.refl _) (resolver_answers hn fun _ _ => rfl)

/-- What a pass on a quiet cache comes to, in whichever order its questions are asked and end, is
what it comes to at once, one host after another. -/
theorem refresh_attend {s : CacheState} (hs : s.IsQuiet) (hc : s.cancelled = [])
    (hn : s.entries.hosts.Nodup) {who : Option Nat} {e : CacheEvent γ} (he : s.Begins who e)
    {past : List (CacheEffect γ)} (hpast : ∀ flight ∈ asked past, flight.call < s.nextCall)
    {es : List (CacheEvent γ)} (hes : ∀ e ∈ es, e.Attends) (hw : w.Serve past s (e :: es))
    (hend : (s.after (e :: es)).IsQuiet) :
    let r := refreshNow w.resolver s.settings.lookupTimeout ⟨s.entries, callsFor past⟩
    let effects := s.effects (e :: es)
    (∀ task, resultsOf task effects = if who = some task then [.refreshed r.1] else [])
      ∧ (s.after (e :: es)).entries = r.2.entries ∧ callsFor (past ++ effects) = r.2.world := by
  intro r effects
  obtain ⟨order, hleaves, hasked, ⟨background, tasks, nextTask, hstate⟩, hresults⟩ := hs.begins he
  obtain ⟨-, hw⟩ := hw
  have hhosts := s.passHosts_perm order
  have hpending : (s.firstPass order).pending = s.passHosts order :=
    (Pass.over (s.passHosts order)).pending_fill _ _ _
  have hcounted := (Pass.Counted.over (hhosts.nodup_iff.2 hn) hpast).fill hasked
  rw [CacheState.after] at hend
  obtain ⟨hentries, hrest, hdone⟩ := pass_attend hes hleaves
    (by rw [hstate]; exact hc) (by rw [hstate, hpending]; exact hhosts.subset)
    (by rw [hstate]; exact hcounted) hw hend
  have hsettings : (s.step e).1.settings = s.settings := by rw [hstate]
  have hkept : (s.step e).1.entries = s.entries := by rw [hstate]
  rw [hsettings] at hentries hdone
  rw [hkept] at hentries
  have hr : r = _ := w.refreshNow_eq s.settings.lookupTimeout hn
  have heffects : effects = (s.step e).2 ++ (s.step e).1.effects es := rfl
  have hall : ((asked effects).map Flight.host).Perm s.entries.hosts := by
    refine List.Perm.trans ?_ hhosts
    have hfirst : (s.firstAsked order).map Flight.host = (s.passHosts order).take passWindow :=
      Pass.starting_hosts (Pass.over (s.passHosts order)) _ _ _
    rw [← List.take_append_drop passWindow (s.passHosts order), heffects, asked_append,
      List.map_append, hasked, hfirst]
    exact hrest.append_left _
  rw [hr]
  refine ⟨fun task => ?_, ?_, ?_⟩
  · rw [heffects, resultsOf_append, hresults, hdone, hpending, hhosts.countP_eq]
    have hnone : (s.firstPass order).replaced = 0 := rfl
    by_cases hd : (s.firstPass order).isDone
    · have hnil : s.entries.hosts = [] := by
        rw [(Pass.pending_of_isDone hd).1] at hpending
        exact List.Perm.eq_nil (hpending ▸ hhosts.symm)
      simp [hd, hnone, hnil]
    · simp [hd, hnone]
  · rw [CacheState.after, hentries, hpending]
    simp only [hhosts.mem_iff]
  · funext host
    rw [callsFor_append, callsFor_eq_count effects, hall.count_eq]

end Peers

end HostDialing

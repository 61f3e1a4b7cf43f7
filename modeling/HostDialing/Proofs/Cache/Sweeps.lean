import HostDialing.Proofs.Cache.PassSteps
import Mathlib.Data.List.Infix

/-!
# Where a pass stands

Every host of a pass is unstarted, in flight or done, and the window is full while there is a host
to begin. So it is when the pass begins and after each step, whatever else happens, and so it is
after any run (`CacheState.Begins.sweeps_after`).
-/

namespace HostDialing

variable {γ : Type}

/-- Which questions of a pass were asked and which of them have ended. -/
structure Pass.Traces (p : Pass) (hosts : List String) (asked ended : List Flight) : Prop where
  /-- The hosts are begun in their order. -/
  begun : asked.map Flight.host ++ p.unstarted = hosts
  waiting : p.inFlight.Sublist asked
  settled : (ended ++ p.inFlight).Perm asked
  done : p.done.map Prod.fst = ended.map Flight.host

/-- The same of a pass whose window is filled. -/
structure Pass.Stands (p : Pass) (hosts : List String) (asked ended : List Flight) : Prop
    extends p.Traces hosts asked ended where
  window : p.inFlight.length ≤ passWindow
  full : p.unstarted ≠ [] → p.inFlight.length = passWindow

section places

variable {p : Pass} {hosts : List String} {asked ended : List Flight}

theorem Pass.mem_starting {flight : Flight} {now : Instant} {limit : Duration} {call : Nat}
    (h : flight ∈ p.starting now limit call) :
    flight.host ∈ p.unstarted ∧ flight = .start flight.call flight.host now limit := by
  have hhost : flight.host ∈ (p.starting now limit call).map Flight.host := List.mem_map_of_mem h
  rw [starting_hosts] at hhost
  obtain ⟨⟨host, n⟩, -, rfl⟩ := List.mem_map.1 h
  exact ⟨List.mem_of_mem_take hhost, rfl⟩

theorem Pass.Traces.over (hosts : List String) : (Pass.over hosts).Traces hosts [] [] :=
  ⟨rfl, List.Sublist.refl _, List.Perm.refl _, rfl⟩

theorem Pass.Traces.fill (h : p.Traces hosts asked ended)
    (hwindow : p.inFlight.length ≤ passWindow) (now : Instant) (limit : Duration) (call : Nat) :
    (p.fill now limit call).Stands hosts (asked ++ p.starting now limit call) ended := by
  obtain ⟨hle, hfull⟩ := Pass.fill_window hwindow now limit call
  refine ⟨⟨?_, h.waiting.append (List.Sublist.refl _), ?_, h.done⟩, hle, hfull.resolve_left⟩
  · rw [List.map_append, p.starting_hosts, List.append_assoc, Pass.fill, List.take_append_drop]
    exact h.begun
  · rw [Pass.fill, ← List.append_assoc]
    exact h.settled.append_right _

theorem Pass.Traces.finish (h : p.Traces hosts asked ended)
    (hn : (p.inFlight.map Flight.call).Nodup) {flight : Flight} (hf : flight ∈ p.inFlight)
    (isReplaced : Bool) : (p.finish flight isReplaced).Traces hosts asked (ended ++ [flight]) := by
  refine ⟨h.begun, List.filter_sublist.trans h.waiting, ?_, ?_⟩
  · rw [List.append_assoc]
    exact ((p.finish_perm hn hf isReplaced).symm.append_left ended).trans h.settled
  · rw [Pass.finish, List.map_append, h.done, List.map_append]
    rfl

/-- Each host is in one place. -/
theorem Pass.Traces.places (h : p.Traces hosts asked ended) :
    (p.unstarted ++ (p.inFlight.map Flight.host ++ p.done.map Prod.fst)).Perm hosts := by
  have hasked := h.settled.map Flight.host
  rw [List.map_append, ← h.done] at hasked
  rw [← h.begun]
  exact List.perm_append_comm.trans ((List.perm_append_comm.trans hasked).append_right _)

theorem Pass.Traces.of_isDone (h : p.Traces hosts asked ended) (hd : p.isDone) :
    asked.map Flight.host = hosts ∧ ended.Perm asked := by
  obtain ⟨hu, hf⟩ : p.unstarted = [] ∧ p.inFlight = [] := by simpa [isDone] using hd
  have hasked := h.begun
  have hended := h.settled
  rw [hu, List.append_nil] at hasked
  rw [hf, List.append_nil] at hended
  exact ⟨hasked, hended⟩

/-- A question that ends leaves room for one host, and the next takes it. -/
theorem Pass.starting_of_full (hn : (p.inFlight.map Flight.call).Nodup)
    (hfull : p.unstarted ≠ [] → p.inFlight.length = passWindow) {flight : Flight}
    (hf : flight ∈ p.inFlight) (isReplaced : Bool) (now : Instant) (limit : Duration)
    (call : Nat) :
    (p.finish flight isReplaced).starting now limit call
      = (p.unstarted.head?.map (Flight.start call · now limit)).toList := by
  have hlength := (p.finish_perm hn hf isReplaced).length_eq
  rw [List.length_cons] at hlength
  rcases hu : p.unstarted with _ | ⟨host, rest⟩
  · simp [starting, finish, hu]
  · have hroom : passWindow - (p.finish flight isReplaced).inFlight.length = 1 := by
      rw [hfull (by simp [hu])] at hlength
      omega
    have hunstarted : (p.finish flight isReplaced).unstarted = host :: rest := hu
    simp [starting, hroom, hunstarted]

end places

theorem CacheState.Carries.calls_nodup {s : CacheState} (hn : s.Numbered) {who : Option Nat}
    {p : Pass} (h : s.Carries who (some p)) : (p.inFlight.map Flight.call).Nodup := by
  rcases who with _ | id
  · have hb : s.background.pass? = some p := h
    have hcalls := hn.calls_nodup
    rw [flights, List.map_append, List.nodup_append] at hcalls
    rcases hbackground : s.background with ticker | ⟨ticker, q⟩ | _
    · simp [hbackground, Background.pass?] at hb
    · obtain rfl : q = p := by simpa [hbackground, Background.pass?] using hb
      rw [hbackground] at hcalls
      exact hcalls.2.1
    · simp [hbackground, Background.pass?] at hb
  · exact hn.calls_nodup_of_task (mem_tasks_of_task? h.2)

/-- Who waits for a question of a pass. -/
theorem CacheState.Carries.exists_owner {s : CacheState} {who : Option Nat} {p : Pass}
    (h : s.Carries who (some p)) {flight : Flight} (hf : flight ∈ p.inFlight) :
    ∃ owner : Owner, owner.Waits s ∧ owner.flight = flight ∧ owner.id? = who
      ∧ owner.cancelled? s = none := by
  rcases who with _ | id
  · have hb : s.background.pass? = some p := h
    rcases hbackground : s.background with ticker | ⟨ticker, q⟩ | _
    · simp [hbackground, Background.pass?] at hb
    · obtain rfl : q = p := by simpa [hbackground, Background.pass?] using hb
      exact ⟨.background ticker q flight, ⟨hbackground, hf⟩, rfl, rfl, rfl⟩
    · simp [hbackground, Background.pass?] at hb
  · exact ⟨.refresh id p flight, ⟨mem_tasks_of_task? h.2, hf⟩, rfl, rfl, rfl⟩

theorem Flight.outcome?_eq_none_iff {f : Flight} {now : Instant} {given : Option Answer} :
    f.outcome? now given = none ↔ ¬ (given.isSome ∨ f.deadline ≤ now) := by
  rcases given with _ | answer
  · by_cases h : f.deadline ≤ now <;> simp [outcome?, h]
  · by_cases h : now ≤ f.deadline <;> simp [outcome?, h]

/-- A question of a pass ends with an answer or at its deadline, and in the same step the pass
begins its next host; before that the pass waits on. -/
theorem CacheState.Carries.answer {s : CacheState} (hn : s.Numbered) {who : Option Nat} {p : Pass}
    (h : s.Carries who (some p)) (hfull : p.unstarted ≠ [] → p.inFlight.length = passWindow)
    {flight : Flight} (hf : flight ∈ p.inFlight) (given : Option Answer)
    (cancels : Option Token) :
    let e : CacheEvent γ := .answer flight.call given cancels
    let next := p.unstarted.head?.map (Flight.start s.nextCall · s.now s.settings.lookupTimeout)
    (s.endedIn who e, s.askedIn who e)
      = if given.isSome ∨ flight.deadline ≤ s.now then ([flight], next.toList) else ([], []) := by
  intro e next
  obtain ⟨owner, hwaits, rfl, hid, hnot⟩ := h.exists_owner hf
  have howner := hn.owner?_of_waits hwaits
  have hended : s.ended? e = (owner.flight.outcome? s.now given).map (owner, ·) := by
    simp only [e, ended?, howner, hnot]
  rcases houtcome : owner.flight.outcome? s.now given with _ | answer
  · have hnever := Flight.outcome?_eq_none_iff.1 houtcome
    rw [houtcome, Option.map_none] at hended
    rw [if_neg hnever]
    rcases h.beside (e := e) hn id id (by simp [hended]) with ⟨-, hasked, hnone, -⟩
      | ⟨hgives, -⟩ | ⟨-, -, -, -, -, hone, -⟩
    · rw [hasked, hnone]
    · exact hgives.elim
    · simp [endedIn, hended] at hone
  · have hcomes : given.isSome ∨ owner.flight.deadline ≤ s.now := by
      by_contra hnever
      simp [Flight.outcome?_eq_none_iff.2 hnever] at houtcome
    rw [houtcome, Option.map_some] at hended
    rw [if_pos hcomes]
    have hflight : s.endedIn who e = [owner.flight] := by simp [endedIn, hended, hid]
    have hcalls := h.calls_nodup hn
    rcases h.ended hn hended hid with ⟨-, -, hnone, -⟩ | ⟨hgives, -⟩
      | ⟨-, isReplaced, -, -, hasked, hone, -⟩
    · simp [hflight] at hnone
    · exact hgives.elim
    · obtain rfl := List.singleton_inj.1 (hflight.symm.trans hone)
      rw [hasked, hone, Pass.starting_of_full hcalls hfull hf]

/-- Where a run has brought a pass that it began with. -/
structure CacheState.Sweeps (s : CacheState) (who : Option Nat) (hosts : List String)
    (run : List (CacheEvent γ)) (pass : Pass) : Prop where
  stands : pass.Stands hosts (s.askedFor who run) (s.endedFor who run)
  /-- Each question was asked for as long as the limit is, from when it was asked. -/
  started : ∀ flight ∈ s.askedFor who run, ∃ before e after, run = before ++ e :: after
    ∧ flight ∈ asked ((s.after before).step e).2
    ∧ flight = .start flight.call flight.host (s.after before).now s.settings.lookupTimeout
  carries : (s.after run).Carries who (some pass) ∧ ¬ pass.isDone
    ∨ (s.after run).Carries who none ∧ (pass.isDone ∨ ∃ e ∈ run, e.GivesUp who)
  results : ∀ id ∈ who, resultsOf id (s.effects run)
    = if pass.isDone then [.refreshed pass.replaced] else []

theorem CacheState.asked_of_mem_askedIn {s : CacheState} {who : Option Nat} {e : CacheEvent γ}
    {flight : Flight} (h : flight ∈ s.askedIn who e) : flight ∈ asked (s.step e).2 := by
  unfold askedIn at h
  split at h
  · exact h
  · simp at h

theorem CacheState.Begins.sweeps {s : CacheState} (hn : s.Numbered) {who : Option Nat}
    {e : CacheEvent γ} (h : s.Begins who e) :
    s.Sweeps who (s.passHosts e.order) [e] (s.firstPass e.order) := by
  obtain ⟨hcarries, hasked, hended, hresults⟩ := h.step hn
  have haskedFor : s.askedFor who [e] = s.firstAsked e.order := by
    rw [askedFor, askedFor, List.append_nil, hasked]
  have hendedFor : s.endedFor who [e] = [] := by
    rw [endedFor, endedFor, List.append_nil, hended]
  refine ⟨?_, fun flight hf => ⟨[], e, [], rfl, ?_, ?_⟩, ?_, fun id hid => ?_⟩
  · rw [haskedFor, hendedFor]
    exact (Pass.Traces.over _).fill (Nat.zero_le _) _ _ _
  · rw [haskedFor, ← hasked] at hf
    exact asked_of_mem_askedIn hf
  · rw [haskedFor] at hf
    exact (Pass.mem_starting hf).2
  · rw [after_singleton]
    by_cases hd : (s.firstPass e.order).isDone
    · rw [if_pos hd] at hcarries
      exact .inr ⟨hcarries, .inl hd⟩
    · rw [if_neg hd] at hcarries
      exact .inl ⟨hcarries, hd⟩
  · rw [effects_singleton, hresults id hid]

/-- What passes a pass by leaves it where it is. -/
theorem CacheState.Sweeps.beside {s : CacheState} {who : Option Nat} {hosts : List String}
    {run : List (CacheEvent γ)} {pass : Pass} (h : s.Sweeps who hosts run pass)
    {e : CacheEvent γ} (hasked : (s.after run).askedIn who e = [])
    (hended : (s.after run).endedIn who e = [])
    (hresults : ∀ id ∈ who, resultsOf id ((s.after run).step e).2 = [])
    (hcarries : ((s.after run).step e).1.Carries who (some pass) ∧ ¬ pass.isDone
      ∨ ((s.after run).step e).1.Carries who none
        ∧ (pass.isDone ∨ ∃ e' ∈ run ++ [e], e'.GivesUp who)) :
    s.Sweeps who hosts (run ++ [e]) pass := by
  have haskedFor : s.askedFor who (run ++ [e]) = s.askedFor who run := by
    rw [askedFor_concat, hasked, List.append_nil]
  have hendedFor : s.endedFor who (run ++ [e]) = s.endedFor who run := by
    rw [endedFor_concat, hended, List.append_nil]
  refine ⟨?_, fun flight hf => ?_, ?_, fun id hid => ?_⟩
  · rw [haskedFor, hendedFor]
    exact h.stands
  · rw [haskedFor] at hf
    obtain ⟨before, e', after, rfl, hstart⟩ := h.started flight hf
    exact ⟨before, e', after ++ [e], by simp, hstart⟩
  · rw [after_append]
    exact hcarries
  · rw [effects_append, resultsOf_append, h.results id hid, effects_singleton, hresults id hid,
      List.append_nil]

/-- A step after which a pass stands as it should, if it stood so before. -/
theorem CacheState.Sweeps.step {s : CacheState} {who : Option Nat} {hosts : List String}
    {run : List (CacheEvent γ)} {pass : Pass} (h : s.Sweeps who hosts run pass)
    (hn : s.Numbered) {e : CacheEvent γ} (hbegins : ¬ (s.after run).Begins who e) :
    ∃ pass', s.Sweeps who hosts (run ++ [e]) pass' := by
  have ht : (s.after run).Numbered := hn.after run
  rcases h.carries with ⟨hcarries, hundone⟩ | ⟨hcarries, hover⟩
  · rcases hcarries.step ht hbegins with
      ⟨hkept, hasked, hended, hresults⟩ | ⟨hgives, hgone, hasked, hended, hresults⟩
      | ⟨hf, isReplaced, hq, hleft, hasked, hended, hresults⟩
    · exact ⟨pass, h.beside hasked hended hresults (.inl ⟨hkept, hundone⟩)⟩
    · exact ⟨pass, h.beside hasked hended hresults (.inr ⟨hgone, .inr ⟨e, by simp, hgives⟩⟩)⟩
    · rename_i f q
      have haskedFor : s.askedFor who (run ++ [e]) = s.askedFor who run
          ++ (pass.finish f isReplaced).starting (s.after run).now
            (s.after run).settings.lookupTimeout (s.after run).nextCall := by
        rw [askedFor_concat, hasked]
      have hendedFor : s.endedFor who (run ++ [e]) = s.endedFor who run ++ [f] := by
        rw [endedFor_concat, hended]
      refine ⟨q, ?_, fun flight hflight => ?_, ?_, fun id hid => ?_⟩
      · rw [haskedFor, hendedFor, hq]
        exact (h.stands.finish (hcarries.calls_nodup ht) hf isReplaced).fill
          (Nat.le_trans (List.length_filter_le _ _) h.stands.window) _ _ _
      · rw [haskedFor, List.mem_append] at hflight
        rcases hflight with hflight | hflight
        · obtain ⟨before, e', after, rfl, hstart⟩ := h.started flight hflight
          exact ⟨before, e', after ++ [e], by simp, hstart⟩
        · refine ⟨run, e, [], rfl, asked_of_mem_askedIn (hasked ▸ hflight), ?_⟩
          rw [← hn.settings_after run]
          exact (Pass.mem_starting hflight).2
      · rw [after_append, after_singleton]
        by_cases hd : q.isDone
        · rw [if_pos hd] at hleft
          exact .inr ⟨hleft, .inl hd⟩
        · rw [if_neg hd] at hleft
          exact .inl ⟨hleft, hd⟩
      · rw [effects_append, resultsOf_append, h.results id hid, if_neg hundone, List.nil_append,
          effects_singleton, hresults id hid]
  · have hover : pass.isDone ∨ ∃ e' ∈ run ++ [e], e'.GivesUp who :=
      hover.imp_right fun ⟨e', he', hgives⟩ => ⟨e', List.mem_append_left _ he', hgives⟩
    rcases hcarries.step ht hbegins with
      ⟨hkept, hasked, hended, hresults⟩ | ⟨-, hgone, hasked, hended, hresults⟩
    · exact ⟨pass, h.beside hasked hended hresults (.inr ⟨hkept, hover⟩)⟩
    · exact ⟨pass, h.beside hasked hended hresults (.inr ⟨hgone, hover⟩)⟩

/-- What a pass stands like after any run, in which no other pass of the background task has begun
after it. -/
theorem CacheState.Begins.sweeps_after {s : CacheState} (hn : s.Numbered) {who : Option Nat}
    {first : CacheEvent γ} (hfirst : s.Begins who first) {es : List (CacheEvent γ)}
    (hes : Throughout (fun t e => ¬ t.Begins who e) (s.step first).1 es) :
    ∃ pass, s.Sweeps who (s.passHosts first.order) (first :: es) pass := by
  induction es using List.reverseRecOn with
  | nil => exact ⟨_, hfirst.sweeps hn⟩
  | append_singleton es e ih =>
    obtain ⟨hes, he, -⟩ := throughout_append.1 hes
    obtain ⟨pass, h⟩ := ih hes
    exact h.step hn he

/-- A refresh begins once. -/
theorem CacheState.Begins.never_again {s : CacheState} (hn : s.Numbered) {id : Nat}
    {first : CacheEvent γ} (hfirst : s.Begins (some id) first) (es : List (CacheEvent γ)) :
    Throughout (fun t e => ¬ t.Begins (some id) e) (s.step first).1 es := by
  have hlater : ∀ t : CacheState, id < t.nextTask → ∀ e : CacheEvent γ, ¬ t.Begins (some id) e := by
    intro t hlt e he
    rcases e with request | _ | _ | _ | _ | _ | _ | _ | order | _
    case start =>
      cases request with
      | refresh order => exact absurd (Option.some.inj he) (Nat.ne_of_lt hlt)
      | _ => exact he.elim
    case tick => exact absurd he.1 (by simp)
    all_goals exact he.elim
  have hlt : id < (s.step first).1.nextTask := by
    have hcarries := (hfirst.step hn).1
    exact hcarries.1
  have hnext := hn.step first
  generalize (s.step first).1 = t at hlt hnext
  induction es generalizing t with
  | nil => exact trivial
  | cons e es ih =>
    exact ⟨hlater t hlt e, ih _ (Nat.lt_of_lt_of_le hlt (hnext.nextTask_after [e])) (hnext.step e)⟩

theorem CacheState.Sweeps.deadline_eq {s : CacheState} {who : Option Nat} {hosts : List String}
    {run : List (CacheEvent γ)} {pass : Pass} (h : s.Sweeps who hosts run pass) {flight : Flight}
    (hf : flight ∈ s.askedFor who run) :
    flight.deadline.nanos = flight.started.nanos + s.settings.lookupTimeout.totalNanos := by
  obtain ⟨before, e, after, -, -, hstart⟩ := h.started flight hf
  rw [hstart]
  rfl

end HostDialing

import HostDialing.Proofs.Cache.Sweeps

/-!
# The window of a pass

A question in flight holds back only what comes eight places after it. Where none outlives its
deadline the `k`-th host is thus begun within `k / 8` lookup timeouts (`CacheState.Begins.paced`).
What a pass is from its beginning to its end is said by `CacheState.pass_sweeps_hosts`.
-/

namespace HostDialing

variable {γ : Type}

/-- No question of the pass outlives its deadline. -/
def CacheState.Punctual (s : CacheState) (who : Option Nat) (run : List (CacheEvent γ)) : Prop :=
  ∀ before, before <+: run → ∀ pass ∈ (s.after before).passOf? who,
    ∀ flight ∈ pass.inFlight, (s.after before).now ≤ flight.deadline

/-- The `k`-th question of the pass was begun within `k / 8` lookup timeouts. -/
def CacheState.Paced (s : CacheState) (who : Option Nat) (run : List (CacheEvent γ)) : Prop :=
  ∀ k flight, (s.askedFor who run)[k]? = some flight →
    flight.started.nanos ≤ s.now.nanos + k / passWindow * s.settings.lookupTimeout.totalNanos

theorem getElem?_of_cons_sublist {α : Type} {a : α} {l l' : List α} (h : (a :: l).Sublist l') :
    ∃ i, l'[i]? = some a ∧ i + (l.length + 1) ≤ l'.length := by
  obtain ⟨l₁, l₂, rfl, ha, hl⟩ := List.cons_sublist_iff.1 h
  obtain ⟨i, hlt, rfl⟩ := List.mem_iff_getElem.1 ha
  have := hl.length_le
  refine ⟨i, by rw [List.getElem?_append_left hlt, List.getElem?_eq_getElem hlt], ?_⟩
  rw [List.length_append]
  omega

/-- While there are hosts to begin, no more time has passed than the window has held back: the
oldest question in flight has seven after it. -/
theorem CacheState.Sweeps.now_le {s : CacheState} {who : Option Nat} {hosts : List String}
    {run : List (CacheEvent γ)} {pass : Pass} (h : s.Sweeps who hosts run pass)
    (hpaced : s.Paced who run) (hunstarted : pass.unstarted ≠ [])
    (htime : ∀ flight ∈ pass.inFlight, (s.after run).now ≤ flight.deadline) :
    (s.after run).now.nanos ≤ s.now.nanos
      + (s.askedFor who run).length / passWindow * s.settings.lookupTimeout.totalNanos := by
  set limit := s.settings.lookupTimeout.totalNanos
  have hfull := h.stands.full hunstarted
  rcases hinFlight : pass.inFlight with _ | ⟨flight, rest⟩
  · simp [hinFlight, passWindow] at hfull
  have hwaiting := h.stands.waiting
  rw [hinFlight] at hwaiting hfull
  obtain ⟨i, hi, hlength⟩ := getElem?_of_cons_sublist hwaiting
  rw [List.length_cons] at hfull
  have hdeadline := h.deadline_eq (List.mem_of_getElem? hi)
  have hslot : i / passWindow + 1 ≤ (s.askedFor who run).length / passWindow := by
    unfold passWindow at *
    omega
  calc (s.after run).now.nanos
      ≤ flight.deadline.nanos := htime flight (by simp [hinFlight])
    _ = flight.started.nanos + limit := hdeadline
    _ ≤ s.now.nanos + i / passWindow * limit + limit := Nat.add_le_add_right (hpaced i flight hi) _
    _ = s.now.nanos + (i / passWindow + 1) * limit := by
      rw [Nat.succ_mul, Nat.add_assoc]
    _ ≤ _ := Nat.add_le_add_left (Nat.mul_le_mul_right _ hslot) _

theorem CacheState.Punctual.of_append {s : CacheState} {who : Option Nat}
    {run es : List (CacheEvent γ)} (h : s.Punctual who (run ++ es)) : s.Punctual who run :=
  fun before hb => h before (hb.trans (List.prefix_append _ _))

/-- A step asks for a pass only what the pass has not begun, and at once. -/
theorem CacheState.Sweeps.of_mem_askedIn {s : CacheState} {who : Option Nat} {hosts : List String}
    {run : List (CacheEvent γ)} {pass : Pass} (h : s.Sweeps who hosts run pass) (hn : s.Numbered)
    {e : CacheEvent γ} (hbegins : ¬ (s.after run).Begins who e) {flight : Flight}
    (hf : flight ∈ (s.after run).askedIn who e) :
    (s.after run).Carries who (some pass) ∧ pass.unstarted ≠ []
      ∧ flight.started = (s.after run).now := by
  rcases h.carries with ⟨hcarries, -⟩ | ⟨hcarries, -⟩
  · rcases hcarries.step (hn.after run) hbegins with
      ⟨-, hasked, -, -⟩ | ⟨-, -, hasked, -, -⟩ | ⟨-, isReplaced, -, -, hasked, -, -⟩ <;>
      rw [hasked] at hf
    · simp at hf
    · simp at hf
    · obtain ⟨hhost, hstart⟩ := Pass.mem_starting hf
      exact ⟨hcarries, List.ne_nil_of_mem hhost, by rw [hstart]; rfl⟩
  · rcases hcarries.step (hn.after run) hbegins with ⟨-, hasked, -, -⟩ | ⟨-, -, hasked, -, -⟩ <;>
      simp [hasked] at hf

theorem CacheState.Begins.paced {s : CacheState} (hn : s.Numbered) {who : Option Nat}
    {first : CacheEvent γ} (hfirst : s.Begins who first) {es : List (CacheEvent γ)}
    (hes : Throughout (fun t e => ¬ t.Begins who e) (s.step first).1 es)
    (hpunctual : s.Punctual who (first :: es)) : s.Paced who (first :: es) := by
  induction es using List.reverseRecOn with
  | nil =>
    intro k flight hk
    rw [askedFor, askedFor, List.append_nil, (hfirst.step hn).2.1] at hk
    obtain ⟨-, hstart⟩ := Pass.mem_starting (List.mem_of_getElem? hk)
    rw [hstart]
    exact Nat.le_add_right _ _
  | append_singleton es e ih =>
    obtain ⟨hes, hbegins, -⟩ := throughout_append.1 hes
    rw [← List.cons_append] at hpunctual ⊢
    have hpaced := ih hes hpunctual.of_append
    obtain ⟨pass, h⟩ := hfirst.sweeps_after hn hes
    intro k flight hk
    rw [askedFor_concat] at hk
    by_cases hlt : k < (s.askedFor who (first :: es)).length
    · rw [List.getElem?_append_left hlt] at hk
      exact hpaced k flight hk
    · rw [List.getElem?_append_right (Nat.le_of_not_lt hlt)] at hk
      obtain ⟨hcarries, hunstarted, hstart⟩ :=
        h.of_mem_askedIn hn hbegins (List.mem_of_getElem? hk)
      rw [hstart]
      refine Nat.le_trans (h.now_le hpaced hunstarted fun flight hf => ?_) ?_
      · exact hpunctual _ (List.prefix_append _ _) pass hcarries.passOf? flight hf
      · exact Nat.add_le_add_left
          (Nat.mul_le_mul_right _ (Nat.div_le_div_right (Nat.le_of_not_lt hlt))) _

/-- A pass over the hosts that are known when it begins, in any order, from then on until it is over
or given up, whatever else happens: other requests, clears, other passes. The hosts are begun in
their order. While the pass waits each host is unstarted, in flight or done, and eight questions are
in flight, or fewer where no host is left to begin. A question ends with an answer or, counted from
its own start, at the lookup timeout, whatever the others do, and in the same step the next host is
begun. The pass is over only when all questions have ended. If none outlives its deadline, the
`k`-th host is begun within `k / 8` lookup timeouts. -/
theorem CacheState.pass_sweeps_hosts {s : CacheState} (hs : s.Reachable γ) {who : Option Nat}
    {first : CacheEvent γ} (hfirst : s.Begins who first) {es : List (CacheEvent γ)}
    (hes : who = none → Throughout (fun t e => ¬ t.Begins none e) (s.step first).1 es) :
    let run := first :: es
    let t := s.after run
    let hosts := s.passHosts first.order
    let limit := s.settings.lookupTimeout
    let asked := s.askedFor who run
    let ended := s.endedFor who run
    hosts.Perm s.entries.hosts ∧ hosts.Nodup
    ∧ asked.map Flight.host <+: hosts
    ∧ (∀ flight ∈ asked, ∃ before e after, run = before ++ e :: after
      ∧ flight ∈ HostDialing.asked ((s.after before).step e).2
      ∧ flight = .start flight.call flight.host (s.after before).now limit)
    ∧ (∀ pass, t.passOf? who = some pass →
      pass.inFlight.length ≤ 8 ∧ (pass.unstarted ≠ [] → pass.inFlight.length = 8)
      ∧ (pass.unstarted ++ (pass.inFlight.map Flight.host ++ pass.done.map Prod.fst)).Perm hosts
      ∧ asked.map Flight.host ++ pass.unstarted = hosts
      ∧ (ended ++ pass.inFlight).Perm asked ∧ pass.done.map Prod.fst = ended.map Flight.host
      ∧ ∀ flight ∈ pass.inFlight, ∀ given cancels,
        let e : CacheEvent γ := .answer flight.call given cancels
        let next := pass.unstarted.head?.map (Flight.start t.nextCall · t.now limit)
        (t.endedIn who e, t.askedIn who e)
          = if given.isSome ∨ flight.started.nanos + limit.totalNanos ≤ t.now.nanos then
            ([flight], next.toList)
          else ([], []))
    ∧ (t.passOf? who = none →
      (∃ e ∈ run, e.GivesUp who) ∨ asked.map Flight.host = hosts ∧ ended.Perm asked)
    ∧ (∀ id ∈ who, ∀ result ∈ resultsOf id (s.effects run),
      asked.map Flight.host = hosts ∧ ended.Perm asked)
    ∧ (s.Punctual who run → ∀ k, k < hosts.length →
      (∀ flight, asked[k]? = some flight →
        flight.started.nanos ≤ s.now.nanos + k / 8 * limit.totalNanos)
      ∧ (asked.length ≤ k → (t.passOf? who).isSome →
        t.now.nanos ≤ s.now.nanos + k / 8 * limit.totalNanos)) := by
  intro run t hosts limit asked ended
  have hn := hs.numbered
  have hes : Throughout (fun t e => ¬ t.Begins who e) (s.step first).1 es := by
    cases who with
    | none => exact hes rfl
    | some id => exact hfirst.never_again hn es
  have hperm := s.passHosts_perm first.order
  obtain ⟨pass, h⟩ := hfirst.sweeps_after hn hes
  have hpass : ∀ p, t.passOf? who = some p → t.Carries who (some pass) ∧ p = pass := by
    intro p hp
    rcases h.carries with ⟨hcarries, -⟩ | ⟨hcarries, -⟩
    · exact ⟨hcarries, Option.some.inj (hp.symm.trans hcarries.passOf?)⟩
    · exact absurd (hp.symm.trans hcarries.passOf?) (by simp)
  refine ⟨hperm, hperm.nodup_iff.2 hs.hosts_nodup, ⟨_, h.stands.begun⟩, h.started, fun p hp => ?_,
    fun hp => ?_, fun id hid result hresult => ?_, fun hpunctual k hk => ?_⟩
  · obtain ⟨hcarries, rfl⟩ := hpass p hp
    refine ⟨h.stands.window, h.stands.full, h.stands.places, h.stands.begun, h.stands.settled,
      h.stands.done, fun flight hf given cancels => ?_⟩
    have hanswer := hcarries.answer (γ := γ) (hn.after run) h.stands.full hf given cancels
    rw [hn.settings_after run] at hanswer
    rw [← h.deadline_eq (h.stands.waiting.subset hf)]
    exact hanswer
  · rcases h.carries with ⟨hcarries, -⟩ | ⟨-, hdone | hgiven⟩
    · exact absurd (hp.symm.trans hcarries.passOf?) (by simp)
    · exact .inr (h.stands.of_isDone hdone)
    · exact .inl hgiven
  · rw [h.results id hid] at hresult
    split_ifs at hresult with hdone
    · exact h.stands.of_isDone hdone
    · simp at hresult
  · have hpaced := hfirst.paced hn hes hpunctual
    refine ⟨hpaced k, fun hle hsome => ?_⟩
    obtain ⟨p, hp⟩ := Option.isSome_iff_exists.1 hsome
    obtain ⟨hcarries, rfl⟩ := hpass p hp
    have hunstarted : p.unstarted ≠ [] := by
      intro hnil
      have hbegun := congrArg List.length h.stands.begun
      rw [hnil, List.append_nil, List.length_map] at hbegun
      exact absurd hk (Nat.not_lt.2 (hbegun ▸ hle))
    refine Nat.le_trans (h.now_le hpaced hunstarted fun flight hf => ?_) ?_
    · exact hpunctual run (List.prefix_refl run) p hp flight hf
    · exact Nat.add_le_add_left (Nat.mul_le_mul_right _ (Nat.div_le_div_right hle)) _

/-- Nine hosts are known, and the background task gets no answer for any of them. Eight questions
are in flight until the first runs into its deadline, and then the ninth is asked at once. -/
theorem CacheState.ninth_host_waits :
    let hosts := ["a", "b", "c", "d", "e", "f", "g", "h", "i"]
    let known : List (CacheEvent Unit) := hosts.zipIdx.flatMap fun (host, call) =>
      [.start (.prewarm host), .answer call (some (.ok ["10.0.0.1"])) none]
    let s := ((CacheState.fresh .default ⟨0⟩).after known).later 30000000000
    let run : List (CacheEvent Unit) :=
      [.tick hosts.reverse, .elapse 10000000000, .answer 9 none none]
    s.Punctual none run
      ∧ (∃ pass, (s.after run).passOf? none = some pass ∧ pass.inFlight.length ≤ 8)
      ∧ ∃ flight, (s.askedFor none run)[8]? = some flight ∧ flight.host = "a"
        ∧ flight.started.nanos = 40000000000
        ∧ flight.started.nanos ≤ s.now.nanos + 8 / 8 * 10000000000 := by
  intro hosts known s run
  have hs : s.Reachable Unit := ⟨.default, ⟨0⟩, known ++ [.elapse 30000000000], by simp; rfl⟩
  have hfirst : s.Begins none (.tick hosts.reverse : CacheEvent Unit) :=
    ⟨rfl, ⟨.ofSeconds 30, ⟨30000000000⟩⟩, by rfl, by decide, by rfl⟩
  have hpunctual : s.Punctual none run := by
    have hall : ∀ before ∈ run.inits, ∀ pass ∈ (s.after before).passOf? none,
        ∀ flight ∈ pass.inFlight, (s.after before).now ≤ flight.deadline := by decide +kernel
    exact fun before hb => hall before ((List.mem_inits _ _).2 hb)
  have hninth : (s.askedFor none run)[8]? = some ⟨17, "a", ⟨40000000000⟩, ⟨50000000000⟩⟩ := by
    decide +kernel
  have hes : Throughout (fun t (e : CacheEvent Unit) => ¬ t.Begins none e)
      (s.step (.tick hosts.reverse : CacheEvent Unit)).1
      [.elapse 10000000000, .answer 9 none none] := ⟨id, id, trivial⟩
  obtain ⟨-, -, -, -, hwaits, -, -, hpace⟩ := pass_sweeps_hosts hs hfirst fun _ => hes
  have hwaiting : ((s.after run).passOf? none).isSome := by decide +kernel
  obtain ⟨pass, hpass⟩ := Option.isSome_iff_exists.1 hwaiting
  have hmany : 8 < (s.passHosts hosts.reverse).length := by decide +kernel
  have hbound := (hpace hpunctual 8 hmany).1 _ hninth
  have hlimit : s.settings.lookupTimeout.totalNanos = 10000000000 := by decide +kernel
  rw [hlimit] at hbound
  exact ⟨hpunctual, ⟨pass, hpass, (hwaits pass hpass).1⟩, _, hninth, rfl, rfl, hbound⟩

end HostDialing

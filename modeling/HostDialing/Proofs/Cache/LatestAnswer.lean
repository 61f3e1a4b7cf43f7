import HostDialing.Proofs.Cache.Turns

/-!
# The latest answer

Where operations are in turn, no clear comes between the questions of a pass and their answers, so
a host that a pass still asks for is a known one (`CacheState.Pursuable`). Then each answer in time
that has addresses, whoever asked for it, becomes the entry of its host, and nothing else touches
that entry until the next clear: the entries are a function of the history of answers
(`CacheState.entry_iff_latest`), and exist where a lookup has succeeded
(`CacheState.entry_iff_succeeded`).
-/

namespace HostDialing

variable {γ : Type}

/-- A step of the run was a `P`, and no step after it was a `Q`. -/
def CacheState.Since (P Q : CacheState → CacheEvent γ → Prop) (s : CacheState)
    (es : List (CacheEvent γ)) : Prop :=
  ∃ before e after, es = before ++ e :: after ∧ P (s.after before) e
    ∧ Throughout (fun t e => ¬ Q t e) ((s.after before).step e).1 after

/-- In the step an answer for the host that has addresses has come in time. -/
def CacheState.Answered (host : String) (addresses : List String) (s : CacheState)
    (e : CacheEvent γ) : Prop :=
  addresses ≠ []
    ∧ ∃ owner, s.ended? e = some (owner, some (.ok addresses)) ∧ owner.flight.host = host

/-- In the step a lookup of the host has come to addresses. -/
def CacheState.Succeeded (host : String) (s : CacheState) (e : CacheEvent γ) : Prop :=
  ∃ id addresses, s.lookedUp? e = some (id, host, .ok addresses)

/-- The step clears the entries. -/
def CacheState.Cleared (_ : CacheState) (e : CacheEvent γ) : Prop := e = .clear

/-- The step clears the entries or brings a new answer for the host. -/
def CacheState.Outdated (host : String) (s : CacheState) (e : CacheEvent γ) : Prop :=
  s.Cleared e ∨ ∃ addresses, s.Answered host addresses e

theorem CacheState.since_nil {P Q : CacheState → CacheEvent γ → Prop} {s : CacheState} :
    ¬ s.Since P Q [] := by
  rintro ⟨before, e, after, hes, -⟩
  simp at hes

theorem CacheState.since_append {P Q : CacheState → CacheEvent γ → Prop} {s : CacheState}
    {es : List (CacheEvent γ)} {e : CacheEvent γ} :
    s.Since P Q (es ++ [e]) ↔ P (s.after es) e ∨ ¬ Q (s.after es) e ∧ s.Since P Q es := by
  constructor
  · rintro ⟨before, first, after, hes, hp, hq⟩
    rcases List.eq_nil_or_concat after with rfl | ⟨after, last, rfl⟩
    · obtain ⟨rfl, h⟩ := List.append_inj' hes rfl
      obtain rfl : e = first := by simpa using h
      exact .inl hp
    · rw [List.concat_eq_append] at hes hq
      rw [← List.cons_append, ← List.append_assoc] at hes
      obtain ⟨rfl, h⟩ := List.append_inj' hes rfl
      obtain rfl : e = last := by simpa using h
      obtain ⟨hq, hlast, -⟩ := throughout_append.1 hq
      rw [after_append]
      exact .inr ⟨hlast, before, first, after, rfl, hp, hq⟩
  · rintro (hp | ⟨hlast, before, first, after, rfl, hp, hq⟩)
    · exact ⟨es, e, [], rfl, hp, trivial⟩
    · rw [after_append] at hlast
      exact ⟨before, first, after ++ [e], by simp, hp, throughout_append.2 ⟨hq, hlast, trivial⟩⟩

/-- Every host that a pass has still to do is known. -/
def CacheState.Pursuable (s : CacheState) : Prop :=
  ∀ p ∈ s.passes, p.pending ⊆ s.entries.hosts

theorem CacheState.hosts_subset_step (s : CacheState) {e : CacheEvent γ} (h : e ≠ .clear) :
    s.entries.hosts ⊆ (s.step e).1.entries.hosts :=
  fun host hm => (s.mem_step_hosts e host).2 (.inl ⟨h, hm⟩)

theorem CacheState.Pursuable.step {s : CacheState} (h : s.Pursuable) {e : CacheEvent γ}
    (he : s.InTurn e) : (s.step e).1.Pursuable := by
  intro p hp
  rcases mem_passes_step hp with ⟨q, hq, hpq⟩ | ⟨⟨order, hb⟩, hp⟩
  · by_cases hc : e = .clear
    · subst hc
      simp [(he rfl).passes] at hq
    · exact List.Subset.trans hpq (List.Subset.trans (h q hq) (s.hosts_subset_step hc))
  · refine List.Subset.trans hp (s.hosts_subset_step ?_)
    rintro rfl
    simp at hb

theorem CacheState.pursuable_of_inTurn (settings : Settings) (now : Instant)
    {es : List (CacheEvent γ)} (h : Throughout InTurn (CacheState.fresh settings now) es) :
    ((CacheState.fresh settings now).after es).Pursuable := by
  induction es using List.reverseRecOn with
  | nil =>
    intro p hp
    simp [after, passes_fresh] at hp
  | append_singleton es e ih =>
    obtain ⟨hes, he, -⟩ := throughout_append.1 h
    rw [after_append]
    exact (ih hes).step he

/-- A question of a pass is for a host that is known. -/
theorem CacheState.Pursuable.mem_hosts {s : CacheState} (h : s.Pursuable) {owner : Owner}
    (hw : owner.Waits s) (hl : ∀ id goal flight, owner ≠ .lookup id goal flight) :
    owner.flight.host ∈ s.entries.hosts := by
  rcases owner with ⟨id, goal, flight⟩ | ⟨id, pass, flight⟩ | ⟨ticker, pass, flight⟩
  · exact absurd rfl (hl id goal flight)
  · exact h pass (mem_passes.2 (.inl ⟨id, hw.1⟩))
      (List.mem_append_left _ (List.mem_map_of_mem hw.2))
  · exact h pass (mem_passes.2 (.inr ⟨ticker, hw.1⟩))
      (List.mem_append_left _ (List.mem_map_of_mem hw.2))

theorem Owner.get?_stored_ok {owner : Owner} {entries : Entries}
    (h : (∀ id goal flight, owner ≠ .lookup id goal flight) → owner.flight.host ∈ entries.hosts)
    (addresses : List String) (host : String) :
    (owner.stored entries (.ok addresses)).get? host
      = if host = owner.flight.host then some addresses else entries.get? host := by
  rcases owner with ⟨id, goal, flight⟩ | ⟨id, pass, flight⟩ | ⟨ticker, pass, flight⟩
  · exact entries.get?_insert flight.host host addresses
  · have hm : flight.host ∈ entries.hosts := h (by simp)
    rw [Owner.stored, Entries.get?_refreshed]
    simp only [hm, and_true]
    rfl
  · have hm : flight.host ∈ entries.hosts := h (by simp)
    rw [Owner.stored, Entries.get?_refreshed]
    simp only [hm, and_true]
    rfl

theorem Owner.stored_error (owner : Owner) (entries : Entries) (error : ResolutionError) :
    owner.stored entries (.error error) = entries := by
  cases owner <;> rfl

theorem CacheState.Answered.ne_clear {s : CacheState} {e : CacheEvent γ} {host : String}
    {addresses : List String} (h : s.Answered host addresses e) : e ≠ .clear := by
  obtain ⟨-, owner, hended, -⟩ := h
  rintro rfl
  simp [ended?] at hended

theorem CacheState.Pursuable.get?_of_answered {s : CacheState} (h : s.Pursuable)
    {e : CacheEvent γ} {host : String} {addresses : List String}
    (ha : s.Answered host addresses e) :
    (s.step e).1.entries.get? host = some addresses := by
  rw [s.step_entries e ha.ne_clear]
  obtain ⟨hne, owner, hended, rfl⟩ := ha
  simp only [hended]
  rw [resolved_of_ne_nil hne, Owner.get?_stored_ok (h.mem_hosts (waits_of_ended hended)),
    if_pos rfl]

/-- Nothing but a clear and an answer for the host touches its entry. -/
theorem CacheState.Pursuable.get?_of_not_outdated {s : CacheState} (h : s.Pursuable)
    {e : CacheEvent γ} {host : String} (he : ¬ s.Outdated host e) :
    (s.step e).1.entries.get? host = s.entries.get? host := by
  obtain ⟨hc, ha⟩ := not_or.1 he
  rw [s.step_entries e hc]
  rcases hended : s.ended? e with _ | ⟨owner, answer⟩
  · rfl
  simp only []
  rcases hr : resolved owner.flight.host s.settings.lookupTimeout answer with error | addresses
  · rw [Owner.stored_error]
  · rw [Owner.get?_stored_ok (h.mem_hosts (waits_of_ended hended)), if_neg]
    rintro rfl
    obtain ⟨rfl, hne⟩ := resolved_eq_ok hr
    exact ha ⟨addresses, hne, owner, hended, rfl⟩

/-- The entry of a host is the latest answer for it since the last clear. -/
theorem CacheState.entry_iff_latest (settings : Settings) (now : Instant)
    {es : List (CacheEvent γ)} (h : Throughout InTurn (CacheState.fresh settings now) es)
    (host : String) (addresses : List String) :
    ((CacheState.fresh settings now).after es).entries.get? host = some addresses
      ↔ (CacheState.fresh settings now).Since (Answered host addresses) (Outdated host) es := by
  induction es using List.reverseRecOn with
  | nil =>
    refine iff_of_false ?_ since_nil
    simp [after, fresh, Entries.empty, Entries.get?]
  | append_singleton es e ih =>
    obtain ⟨hes, -⟩ := throughout_append.1 h
    have hp := pursuable_of_inTurn settings now hes
    rw [after_append, after_singleton, since_append, ← ih hes]
    set t := (CacheState.fresh settings now).after es
    by_cases ho : t.Outdated host e
    · rw [or_iff_left fun hn => hn.1 ho]
      rcases ho with rfl | ⟨given, hg⟩
      · refine iff_of_false ?_ fun ha => ha.ne_clear rfl
        simp [step, Entries.empty, Entries.get?]
      · rw [hp.get?_of_answered hg, Option.some.injEq]
        refine ⟨fun heq => heq ▸ hg, fun ha => ?_⟩
        exact Option.some.inj ((hp.get?_of_answered hg).symm.trans (hp.get?_of_answered ha))
    · rw [hp.get?_of_not_outdated ho]
      exact ⟨fun ha => .inr ⟨ho, ha⟩,
        Or.rec (fun ha => absurd (.inr ⟨addresses, ha⟩) ho) And.right⟩

theorem CacheState.succeeded_of_stored {s : CacheState} {e : CacheEvent γ} {host : String}
    {addresses : List String} (h : s.stored? e = some (host, addresses)) : s.Succeeded host e := by
  unfold stored? at h
  split at h
  · rename_i id goal flight answer hended
    obtain ⟨call, given, cancels, rfl⟩ := answer_of_ended hended
    split at h
    · rename_i stored hr
      obtain ⟨rfl, rfl⟩ := Prod.mk.inj (Option.some.inj h)
      exact ⟨id, stored, by simp only [lookedUp?, hended, hr]⟩
    · simp at h
  · simp at h

/-- A host has an entry if a lookup of it has succeeded since the last clear. -/
theorem CacheState.entry_iff_succeeded (settings : Settings) (now : Instant)
    (es : List (CacheEvent γ)) (host : String) :
    (((CacheState.fresh settings now).after es).entries.get? host).isSome
      ↔ (CacheState.fresh settings now).Since (Succeeded host) Cleared es := by
  rw [Entries.isSome_get?_iff]
  induction es using List.reverseRecOn with
  | nil =>
    refine iff_of_false ?_ since_nil
    simp [after, fresh, Entries.empty, Entries.hosts]
  | append_singleton es e ih =>
    rw [after_append, after_singleton, since_append, ← ih]
    set t := (CacheState.fresh settings now).after es
    constructor
    · intro hm
      rcases (t.mem_step_hosts e host).1 hm with ⟨hc, hm⟩ | ⟨addresses, hs⟩
      · exact .inr ⟨hc, hm⟩
      · exact .inl (succeeded_of_stored hs)
    · rintro (⟨id, addresses, hl⟩ | ⟨hc, hm⟩)
      · rw [← Entries.isSome_get?_iff, entry_of_lookedUp hl]
        rfl
      · exact t.hosts_subset_step hc hm

/-- Whatever the resolver says, and whoever asks it: where each request, pass, clear and stop begins
after all before it have ended, the entries are those of the hosts of which a lookup has succeeded
since the last clear, and each is the latest answer for its host since then that came in time and
has addresses. A lookup that succeeds comes to that entry, and returns it if it is for the
addresses; it has asked for its host once if there was no entry, and for nothing if there was
one. -/
theorem CacheState.entries_latest_answers (settings : Settings) (now : Instant)
    {es : List (CacheEvent γ)} (h : Throughout InTurn (CacheState.fresh settings now) es) :
    let s := CacheState.fresh settings now
    let t := s.after es
    (∀ host, (t.entries.get? host).isSome ↔ s.Since (Succeeded host) Cleared es)
    ∧ (∀ host addresses, t.entries.get? host = some addresses
      ↔ s.Since (Answered host addresses) (Outdated host) es)
    ∧ (∀ (e : CacheEvent γ) id host addresses, t.lookedUp? e = some (id, host, .ok addresses) →
      (t.step e).1.entries.get? host = some addresses)
    ∧ (∀ (e : CacheEvent γ) id addresses,
      .finished id (.addresses (.ok addresses)) ∈ (t.step e).2 →
        ∃ host, s.Sought (es ++ [e]) id host .addresses
          ∧ (t.step e).1.entries.get? host = some addresses)
    ∧ ∀ request host goal (during : List (CacheEvent γ)), t.IsQuiet →
      t.sought? request = some (host, goal) → (∀ e ∈ during, ¬ e.isOperation) →
        (asked (t.effects (.start request :: during))).map Flight.host
          = if (t.entries.get? host).isSome then [] else [host] := by
  intro s t
  refine ⟨entry_iff_succeeded settings now es, entry_iff_latest settings now h,
    fun e id host addresses hl => entry_of_lookedUp hl, fun e id addresses hf => ?_,
    fun request host goal during hq hs hd => ?_⟩
  · obtain ⟨host, hs, hl⟩ := sought_of_finished_step hf
    exact ⟨host, hs, entry_of_lookedUp hl⟩
  · have ht : t.Reachable γ := ⟨settings, now, es, rfl⟩
    have hk : (t.entries.known? host).isSome = (t.entries.get? host).isSome := by
      rcases ha : t.entries.get? host with _ | addresses
      · simp [Entries.known?, ha]
      · rw [ht.known_of_entry ha]
    rw [asked_of_sought hq hs hd, hk]

/-- An answer is kept through a refresh that fails, until a later refresh has another. -/
theorem CacheState.latest_of_refreshes :
    let fresh := CacheState.fresh .default ⟨0⟩
    let run : List (CacheEvent Unit) :=
      [.start (.lookup "a"), .answer 0 (some (.ok ["10.0.0.1"])) none,
        .start (.refresh ["a"]), .answer 1 (some (.error (noSuchHost "a"))) none,
        .start (.refresh ["a"]), .answer 2 (some (.ok ["10.0.0.2"])) none]
    Throughout InTurn fresh run
      ∧ fresh.Since (Succeeded "a") Cleared run
      ∧ fresh.Since (Answered "a" ["10.0.0.2"]) (Outdated "a") run
      ∧ asked ((fresh.after run).step (.start (.prewarm "a") : CacheEvent Unit)).2 = [] := by
  intro fresh run
  have hturn : Throughout InTurn fresh run := by decide +kernel
  have hquiet : (fresh.after run).IsQuiet := by decide +kernel
  have hentry : (fresh.after run).entries.get? "a" = some ["10.0.0.2"] := by decide +kernel
  obtain ⟨hexists, hlatest, -, -, hcalls⟩ := entries_latest_answers .default ⟨0⟩ hturn
  have hasked := hcalls (.prewarm "a") "a" .warmth [] hquiet rfl (by simp)
  rw [if_pos (Option.isSome_of_mem hentry), effects_singleton, List.map_eq_nil_iff] at hasked
  exact ⟨hturn, (hexists "a").1 (Option.isSome_of_mem hentry), (hlatest "a" _).1 hentry, hasked⟩

end HostDialing

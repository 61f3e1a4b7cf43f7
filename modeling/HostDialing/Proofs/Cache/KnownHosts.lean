import HostDialing.Proofs.Cache.Answers

/-!
# Known hosts

The hosts of the entries are those for which a lookup has stored an answer since the last clear,
each of them once. A pass neither adds one nor takes one away, whatever its questions bring. Since
no entry is empty, a host that is listed is a host that is known, and a lookup of it asks nobody.
-/

namespace HostDialing

variable {γ : Type}

/-- A lookup has stored an answer for the host, and the entries were not cleared after it. -/
def CacheState.Stored (s : CacheState) (es : List (CacheEvent γ)) (host : String) : Prop :=
  ∃ before e after addresses, es = before ++ e :: after ∧ CacheEvent.clear ∉ after
    ∧ (s.after before).stored? e = some (host, addresses)

/-- The step is one of a refresh pass: it begins one, or a task of one looks for an answer. -/
def CacheState.Refreshes (s : CacheState) : CacheEvent γ → Prop
  | .start request => ∃ hosts, request = .refresh hosts
  | .tick _ => True
  | .answer call _ _ =>
    ∃ owner, s.owner? call = some owner ∧ ∀ id goal flight, owner ≠ .lookup id goal flight
  | _ => False

theorem CacheState.stored_append {s : CacheState} {es : List (CacheEvent γ)} {e : CacheEvent γ}
    {host : String} :
    s.Stored (es ++ [e]) host
      ↔ e ≠ .clear ∧ s.Stored es host
        ∨ ∃ addresses, (s.after es).stored? e = some (host, addresses) := by
  constructor
  · rintro ⟨before, e', after, addresses, hes, hclear, hs⟩
    rcases List.eq_nil_or_concat after with rfl | ⟨after, last, rfl⟩
    · obtain ⟨rfl, h⟩ := List.append_inj' hes rfl
      obtain rfl : e = e' := by simpa using h
      exact .inr ⟨addresses, hs⟩
    · rw [List.concat_eq_append, ← List.cons_append, ← List.append_assoc] at hes
      obtain ⟨rfl, h⟩ := List.append_inj' hes rfl
      obtain rfl : e = last := by simpa using h
      simp only [List.concat_eq_append, List.mem_append, List.mem_singleton, not_or] at hclear
      exact .inl ⟨Ne.symm hclear.2, before, e', after, addresses, rfl, hclear.1, hs⟩
  · rintro (⟨he, before, e', after, addresses, rfl, hclear, hs⟩ | ⟨addresses, hs⟩)
    · refine ⟨before, e', after ++ [e], addresses, by simp, ?_, hs⟩
      simp only [List.mem_append, List.mem_singleton, not_or]
      exact ⟨hclear, Ne.symm he⟩
    · exact ⟨es, e, [], addresses, rfl, by simp, hs⟩

theorem CacheState.mem_step_hosts (s : CacheState) (e : CacheEvent γ) (host : String) :
    host ∈ (s.step e).1.entries.hosts
      ↔ e ≠ .clear ∧ host ∈ s.entries.hosts
        ∨ ∃ addresses, s.stored? e = some (host, addresses) := by
  by_cases he : e = .clear
  · subst he
    simp [step, Entries.empty, Entries.hosts, stored?, ended?]
  rw [s.step_hosts e he]
  rcases hs : s.stored? e with _ | ⟨stored, addresses⟩
  · simp [he]
  · simp only [Option.some.injEq, Prod.mk.injEq, exists_and_left]
    split_ifs with hm
    · constructor
      · exact fun h => .inl ⟨he, h⟩
      · rintro (⟨-, h⟩ | ⟨rfl, -⟩)
        · exact h
        · exact hm
    · rw [List.mem_append, List.mem_singleton]
      constructor
      · rintro (h | rfl)
        · exact .inl ⟨he, h⟩
        · exact .inr ⟨rfl, addresses, rfl⟩
      · rintro (⟨-, h⟩ | ⟨rfl, -⟩)
        · exact .inl h
        · exact .inr rfl

/-- In a run that begins without entries. -/
theorem CacheState.mem_hosts_iff_stored_of_nil {s : CacheState} (h : s.entries.hosts = [])
    (es : List (CacheEvent γ)) (host : String) :
    host ∈ (s.after es).entries.hosts ↔ s.Stored es host := by
  induction es using List.reverseRecOn with
  | nil =>
    refine ⟨fun hm => ?_, ?_⟩
    · rw [after, h] at hm
      exact absurd hm List.not_mem_nil
    · rintro ⟨before, e, after, addresses, hes, -⟩
      simp at hes
  | append_singleton es e ih =>
    rw [after_append, after_singleton, mem_step_hosts, stored_append, ih]

theorem CacheState.mem_hosts_iff_stored (settings : Settings) (now : Instant)
    (es : List (CacheEvent γ)) (host : String) :
    host ∈ ((CacheState.fresh settings now).after es).entries.hosts
      ↔ (CacheState.fresh settings now).Stored es host :=
  mem_hosts_iff_stored_of_nil rfl es host

theorem CacheState.hosts_of_refreshes {s : CacheState} {e : CacheEvent γ} (h : s.Refreshes e) :
    (s.step e).1.entries.hosts = s.entries.hosts := by
  have hne : e ≠ .clear := by
    rintro rfl
    exact h
  have hs : s.stored? e = none := by
    rcases hended : s.ended? e with _ | ⟨owner, answer⟩
    · simp only [stored?, hended]
    obtain ⟨call, given, cancels, rfl⟩ := answer_of_ended hended
    obtain ⟨ho, -, -⟩ := owner_of_ended hended
    obtain ⟨owner', ho', hl⟩ := h
    obtain rfl : owner = owner' := Option.some.inj (ho.symm.trans ho')
    rcases owner with ⟨id, goal, flight⟩ | ⟨id, pass, flight⟩ | ⟨ticker, pass, flight⟩
    · exact absurd rfl (hl id goal flight)
    · simp only [stored?, hended]
    · simp only [stored?, hended]
  rw [s.step_hosts e hne, hs]

theorem CacheState.Reachable.after {s : CacheState} (h : s.Reachable γ)
    (es : List (CacheEvent γ)) : (s.after es).Reachable γ := by
  obtain ⟨settings, now, history, rfl⟩ := h
  exact ⟨settings, now, history ++ es, after_append history es _⟩

/-- No entry is empty. -/
theorem CacheState.Reachable.known_of_entry {s : CacheState} (hs : s.Reachable γ) {host : String}
    {addresses : List String} (h : s.entries.get? host = some addresses) :
    s.entries.known? host = some addresses := by
  obtain ⟨settings, now, es, rfl⟩ := hs
  exact Entries.known?_eq_some.2 ⟨h, (gave_of_entry settings now es h).1⟩

theorem CacheState.Reachable.known_of_mem {s : CacheState} (hs : s.Reachable γ) {host : String}
    (h : host ∈ s.entries.hosts) : ∃ addresses, s.entries.known? host = some addresses := by
  obtain ⟨addresses, ha⟩ := Option.isSome_iff_exists.1 ((s.entries.isSome_get?_iff host).2 h)
  exact ⟨addresses, hs.known_of_entry ha⟩

/-- A lookup of a known host asks nobody. -/
theorem CacheState.lookUp_known {s : CacheState} {host : String} {addresses : List String}
    (h : s.entries.known? host = some addresses) {request : Request} {goal : Goal}
    (hs : s.sought? request = some (host, goal)) :
    s.lookedUp? (.start request : CacheEvent γ) = some (s.nextTask, host, .ok addresses)
      ∧ asked (s.step (.start request : CacheEvent γ)).2 = [] := by
  refine ⟨by simp only [lookedUp?, hs, h, Option.map_some], ?_⟩
  simp only [step, start_of_sought hs, lookUp, h]
  exact asked_of_task (Stepped.Drops.reach _ s.nextTask host goal (.ok addresses)).effects

/-- A lookup of a known host for its addresses ends as it starts, and leaves no trace. -/
theorem CacheState.step_lookup_known {s : CacheState} (hn : s.Numbered) {host : String}
    {addresses : List String} (h : s.entries.known? host = some addresses) :
    s.step (.start (.lookup host) : CacheEvent γ)
      = ({ s with nextTask := s.nextTask + 1 },
        [.finished s.nextTask (.addresses (.ok addresses))]) := by
  have hid : s.nextTask ∉ ({ s with nextTask := s.nextTask + 1 } : CacheState).ids :=
    fun hm => Nat.lt_irrefl _ (hn.ids_lt _ hm)
  simp only [step, start, lookUp, h, reach]
  rw [removeTask_addTask hid]

/-- However lookups, passes and clears interleave: the hosts are listed once each and are those
that a lookup has stored since the last clear, their number is the size, a step of a pass leaves
them as they are, and a lookup of one of them is answered at once with its entry. -/
theorem CacheState.hosts_exactly_stored (settings : Settings) (now : Instant)
    (es : List (CacheEvent γ)) :
    let s := (CacheState.fresh settings now).after es
    s.entries.hosts.Nodup
    ∧ (∀ host, host ∈ s.entries.hosts ↔ (CacheState.fresh settings now).Stored es host)
    ∧ s.entries.size = s.entries.hosts.length
    ∧ ((s.entries.size == 0) = true ↔ s.entries.hosts = [])
    ∧ (∀ e : CacheEvent γ, s.Refreshes e → (s.step e).1.entries.hosts = s.entries.hosts)
    ∧ ∀ host ∈ s.entries.hosts, ∃ addresses, s.entries.get? host = some addresses
      ∧ s.step (.start (.lookup host) : CacheEvent γ)
        = ({ s with nextTask := s.nextTask + 1 },
          [.finished s.nextTask (.addresses (.ok addresses))])
      ∧ ∀ request goal, s.sought? request = some (host, goal) →
        s.lookedUp? (.start request : CacheEvent γ) = some (s.nextTask, host, .ok addresses)
          ∧ asked (s.step (.start request : CacheEvent γ)).2 = [] := by
  set s := (CacheState.fresh settings now).after es
  have hsize : s.entries.size = s.entries.hosts.length := (List.length_map _).symm
  refine ⟨Reachable.hosts_nodup ⟨settings, now, es, rfl⟩, mem_hosts_iff_stored settings now es,
    hsize, ?_, fun e h => hosts_of_refreshes h, fun host hm => ?_⟩
  · rw [hsize, beq_iff_eq, List.length_eq_zero_iff]
  · obtain ⟨addresses, ha⟩ := Option.isSome_iff_exists.1 ((s.entries.isSome_get?_iff host).2 hm)
    have hknown : s.entries.known? host = some addresses :=
      Entries.known?_eq_some.2 ⟨ha, (gave_of_entry settings now es ha).1⟩
    exact ⟨addresses, ha, step_lookup_known ((numbered_fresh settings now).after es) hknown,
      fun request goal hr => lookUp_known hknown hr⟩

end HostDialing

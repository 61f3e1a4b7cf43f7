import HostDialing.Proofs.Cache.Questions

/-!
# Writes to the entries

The entries change in two ways only: a clear empties them, and a question that ends may put one
whole answer in the place of one host (`step_entries`). A lookup writes whether the host is known
or not; a refresh writes only if it is, so the known hosts grow by lookups alone.
-/

namespace HostDialing

variable {γ : Type}

theorem Entries.hosts_insert (e : Entries) (host : String) (addresses : List String) :
    (e.insert host addresses).hosts = if host ∈ e.hosts then e.hosts else e.hosts ++ [host] := by
  unfold insert
  split
  · rename_i h
    rw [hosts_replace, if_pos ((e.isSome_get?_iff host).1 h)]
  · rename_i h
    rw [if_neg fun hm => h ((e.isSome_get?_iff host).2 hm)]
    simp [hosts]

theorem Entries.nodup_hosts_insert {e : Entries} (h : e.hosts.Nodup) (host : String)
    (addresses : List String) : (e.insert host addresses).hosts.Nodup := by
  rw [hosts_insert]
  split_ifs with hm
  · exact h
  · refine List.nodup_append.2 ⟨h, by simp, fun a ha b hb hab => hm ?_⟩
    rwa [← List.mem_singleton.1 hb, ← hab]

theorem Entries.hosts_refreshed (e : Entries) (host : String)
    (result : Except ResolutionError (List String)) :
    (e.refreshed host result).1.hosts = e.hosts := by
  unfold refreshed
  split
  · split
    · exact e.hosts_replace host _
    · rfl
  · rfl

/-- A refresh replaces the addresses of a host that is known, and nothing else. -/
theorem Entries.get?_refreshed (e : Entries) (host other : String)
    (result : Except ResolutionError (List String)) :
    (e.refreshed host result).1.get? other =
      match result with
      | .ok addresses =>
        if other = host ∧ host ∈ e.hosts then some addresses else e.get? other
      | .error _ => e.get? other := by
  unfold refreshed
  rcases result with error | addresses
  · rfl
  · simp only []
    split
    · exact e.get?_replace host other addresses
    · rename_i h
      rw [if_neg fun hm => h ((e.isSome_get?_iff host).2 hm.2)]

/-- The hosts that are known have an entry each, and that one only. -/
theorem Entries.get?_of_mem {e : Entries} (h : e.hosts.Nodup) {entry : String × List String}
    (hm : entry ∈ e.list) : e.get? entry.1 = some entry.2 := by
  obtain ⟨l₁, l₂, hl⟩ := List.append_of_mem hm
  refine List.lookup_eq_some_iff.2 ⟨l₁, l₂, hl, fun other ho => ?_⟩
  rw [hosts, hl, List.map_append, List.map_cons, List.nodup_append] at h
  have := h.2.2 other.1 (List.mem_map_of_mem ho) entry.1 List.mem_cons_self
  simpa using this.symm

/-- The entries after a question has ended, which `result` it brought. -/
def Owner.stored (entries : Entries) (result : Except ResolutionError (List String)) :
    Owner → Entries
  | lookup _ _ flight =>
    match result with
    | .ok addresses => entries.insert flight.host addresses
    | .error _ => entries
  | refresh _ _ flight => (entries.refreshed flight.host result).1
  | background _ _ flight => (entries.refreshed flight.host result).1

theorem CacheState.reach_entries (s : CacheState) (id : Nat) (host : String) (goal : Goal)
    (result : Except ResolutionError (List String)) :
    (s.reach id host goal result : Stepped γ).1.entries = s.entries := by
  rw [(Stepped.Drops.reach s id host goal result).state]

theorem CacheState.keepRefresh_entries (s : CacheState) (id : Nat) (p : Pass) :
    (s.keepRefresh id p : Stepped γ).1.entries = s.entries := by
  rw [(s.keepRefresh_state id p).1]

theorem CacheState.conclude_entries (s : CacheState) (owner : Owner) (answer : Option Answer) :
    (s.conclude answer owner : Stepped γ).1.entries
      = owner.stored s.entries
        (resolved owner.flight.host s.settings.lookupTimeout answer) := by
  rcases owner with ⟨id, goal, flight⟩ | ⟨id, pass, flight⟩ | ⟨ticker, pass, flight⟩
  · simp only [conclude, endLookup, Owner.stored, Owner.flight]
    rcases resolved flight.host s.settings.lookupTimeout answer with error | addresses
    · exact reach_entries s id flight.host goal _
    · exact reach_entries _ id flight.host goal _
  · exact keepRefresh_entries _ id _
  · rfl

theorem CacheState.lookUp_entries (s : CacheState) (id : Nat) (host : String) (goal : Goal) :
    (s.lookUp id host goal : Stepped γ).1.entries = s.entries := by
  unfold lookUp
  simp only []
  split
  · exact reach_entries _ id host goal _
  · rfl

theorem CacheState.start_entries (s : CacheState) (request : Request) :
    (s.start request : Stepped γ).1.entries = s.entries := by
  rcases s.start_cases (γ := γ) request with ⟨host, goal, -, h⟩ | ⟨hosts, rfl⟩ | ⟨error, -, h⟩
  · rw [h]
    exact lookUp_entries _ s.nextTask host goal
  · exact keepRefresh_entries _ s.nextTask _
  · rw [h]

theorem CacheState.takeTick_entries (s : CacheState) (hosts : List String) :
    (s.takeTick hosts : Stepped γ).1.entries = s.entries := by
  unfold takeTick
  split
  · split_ifs <;> rfl
  · rfl

/-- What a step does to the entries. -/
theorem CacheState.step_entries (s : CacheState) (e : CacheEvent γ) (h : e ≠ .clear) :
    (s.step e).1.entries =
      match s.ended? e with
      | some (owner, answer) =>
        owner.stored s.entries (resolved owner.flight.host s.settings.lookupTimeout answer)
      | none => s.entries := by
  rcases e with request | ⟨call, answer, cancels⟩ | ⟨task, outcome, cancels⟩ | token | task
    | _ | _ | _ | hosts | nanos
  · exact s.start_entries request
  · rcases s.answer_cases (γ := γ) call answer cancels with ⟨owner, a, cancelled, hended, -, -, hs⟩
      | ⟨cancelled, hended, -, hs⟩ | ⟨id, goal, flight, error, hended, -, -, hs⟩
    · rw [hs, hended, conclude_entries]
    · rw [hs, hended]
    · rw [hs, hended]
      rfl
  · obtain ⟨cancelled, -, hs | ⟨result, hs⟩ | ⟨request, attempts, hs⟩⟩ :=
      s.outcome_cases task outcome cancels
    · rw [hs]
      rfl
    · rw [hs]
      rfl
    · rw [hs, (Stepped.Drops.attemptNext _ task request attempts).state]
      rfl
  · rfl
  · rfl
  · exact absurd rfl h
  · rfl
  · rfl
  · exact s.takeTick_entries hosts
  · rfl

/-- What a lookup stores in a step, and for which host. -/
def CacheState.stored? (s : CacheState) (e : CacheEvent γ) : Option (String × List String) :=
  match s.ended? e with
  | some (.lookup _ _ flight, answer) =>
    match resolved flight.host s.settings.lookupTimeout answer with
    | .ok addresses => some (flight.host, addresses)
    | .error _ => none
  | _ => none

theorem CacheState.step_hosts (s : CacheState) (e : CacheEvent γ) (h : e ≠ .clear) :
    (s.step e).1.entries.hosts =
      match s.stored? e with
      | some (host, _) =>
        if host ∈ s.entries.hosts then s.entries.hosts else s.entries.hosts ++ [host]
      | none => s.entries.hosts := by
  rw [s.step_entries e h]
  rcases hended : s.ended? e with _ | ⟨owner, answer⟩
  · simp only [stored?, hended]
  · rcases owner with ⟨id, goal, flight⟩ | ⟨id, pass, flight⟩ | ⟨ticker, pass, flight⟩
    · simp only [stored?, hended, Owner.stored, Owner.flight]
      rcases resolved flight.host s.settings.lookupTimeout answer with error | addresses
      · rfl
      · exact s.entries.hosts_insert flight.host addresses
    · simp only [stored?, hended]
      exact s.entries.hosts_refreshed flight.host _
    · simp only [stored?, hended]
      exact s.entries.hosts_refreshed flight.host _

theorem CacheState.hosts_nodup_step {s : CacheState} (h : s.entries.hosts.Nodup)
    (e : CacheEvent γ) : (s.step e).1.entries.hosts.Nodup := by
  by_cases he : e = .clear
  · rw [he]
    exact List.nodup_nil
  rw [s.step_hosts e he]
  split
  · rename_i host addresses _
    rw [← s.entries.hosts_insert host addresses]
    exact Entries.nodup_hosts_insert h host addresses
  · exact h

theorem CacheState.Reachable.hosts_nodup {s : CacheState} (h : s.Reachable γ) :
    s.entries.hosts.Nodup :=
  h.invariant (fun s => s.entries.hosts.Nodup) (fun _ _ => List.nodup_nil)
    fun _ e h => hosts_nodup_step h e

end HostDialing

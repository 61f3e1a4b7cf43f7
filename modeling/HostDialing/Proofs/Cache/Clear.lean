import HostDialing.Proofs.Cache.KnownHosts

/-!
# Refreshes that outlast a clear

A refresh resolves a host while nothing holds the entries still, and writes what it brings if the
host is known by then. So a question that was begun before a clear and ends after it writes nothing
as long as no lookup has stored the host since; if one has, the answer from before the clear takes
the place of the one from after it (`CacheState.late_answer`).
-/

namespace HostDialing

variable {γ : Type}

/-- The question of a refresh that ends, explicit or in the background, and what it brings. -/
def CacheState.refreshEnded? (s : CacheState) (e : CacheEvent γ) :
    Option (Flight × Except ResolutionError (List String)) :=
  match s.ended? e with
  | some (.refresh _ _ flight, answer) =>
    some (flight, resolved flight.host s.settings.lookupTimeout answer)
  | some (.background _ _ flight, answer) =>
    some (flight, resolved flight.host s.settings.lookupTimeout answer)
  | _ => none

theorem CacheState.ended_of_refreshEnded {s : CacheState} {e : CacheEvent γ} {flight : Flight}
    {result : Except ResolutionError (List String)}
    (h : s.refreshEnded? e = some (flight, result)) :
    ∃ owner answer, s.ended? e = some (owner, answer)
      ∧ resolved flight.host s.settings.lookupTimeout answer = result
      ∧ owner.stored s.entries (resolved owner.flight.host s.settings.lookupTimeout answer)
        = (s.entries.refreshed flight.host result).1 := by
  unfold refreshEnded? at h
  split at h
  · rename_i id pass f answer hended
    obtain ⟨rfl, rfl⟩ : f = flight ∧ resolved f.host _ answer = result := by simpa using h
    exact ⟨_, answer, hended, rfl, rfl⟩
  · rename_i ticker pass f answer hended
    obtain ⟨rfl, rfl⟩ : f = flight ∧ resolved f.host _ answer = result := by simpa using h
    exact ⟨_, answer, hended, rfl, rfl⟩
  · simp at h

/-- A refresh writes what it brings if the host is known, and else nothing. -/
theorem CacheState.step_refreshEnded {s : CacheState} {e : CacheEvent γ} {flight : Flight}
    {addresses : List String} (h : s.refreshEnded? e = some (flight, .ok addresses)) :
    addresses ≠ []
      ∧ (flight.host ∈ s.entries.hosts →
        (s.step e).1.entries = s.entries.replace flight.host addresses)
      ∧ (flight.host ∉ s.entries.hosts → (s.step e).1.entries = s.entries) := by
  obtain ⟨owner, answer, hended, hresult, hstored⟩ := ended_of_refreshEnded h
  have hne : e ≠ .clear := by
    rintro rfl
    simp [ended?] at hended
  have hentries : (s.step e).1.entries = (s.entries.refreshed flight.host (.ok addresses)).1 := by
    rw [s.step_entries e hne, hended]
    exact hstored
  rw [hentries]
  refine ⟨(resolved_eq_ok hresult).2, fun hm => ?_, fun hm => ?_⟩
  · rw [Entries.refreshed, if_pos ((s.entries.isSome_get?_iff _).2 hm)]
  · rw [Entries.refreshed, if_neg fun hs => hm ((s.entries.isSome_get?_iff _).1 hs)]

/-- A question of a refresh that ends after a clear, whenever it was begun. If a lookup has stored
the host since the clear, what the question brings takes the place of what was stored, and the next
lookup is answered with it; if none has, the entries stay as they are. -/
theorem CacheState.late_answer (settings : Settings) (now : Instant)
    (before after : List (CacheEvent γ)) {e : CacheEvent γ} {flight : Flight}
    {addresses : List String}
    (hended : ((CacheState.fresh settings now).after (before ++ .clear :: after)).refreshEnded? e
      = some (flight, .ok addresses)) :
    let cleared := (CacheState.fresh settings now).after (before ++ [.clear])
    let s := (CacheState.fresh settings now).after (before ++ .clear :: after)
    (cleared.Stored after flight.host →
      (s.step e).1.entries = s.entries.replace flight.host addresses
      ∧ ((s.step e).1.step (.start (.lookup flight.host) : CacheEvent γ)).2
        = [.finished (s.step e).1.nextTask (.addresses (.ok addresses))])
    ∧ (¬ cleared.Stored after flight.host →
      (s.step e).1.entries = s.entries ∧ flight.host ∉ s.entries.hosts) := by
  intro cleared s
  have hs : s = cleared.after after := by
    simp only [s, cleared]
    rw [List.append_cons, after_append]
  have hcleared : cleared.entries.hosts = [] := by
    simp only [cleared, after_append, after_singleton]
    rfl
  have hhosts : flight.host ∈ s.entries.hosts ↔ cleared.Stored after flight.host := by
    rw [hs]
    exact mem_hosts_iff_stored_of_nil hcleared after flight.host
  obtain ⟨hne, hknown, hunknown⟩ := step_refreshEnded hended
  refine ⟨fun hstored => ?_, fun hnot => ?_⟩
  · have hm := hhosts.2 hstored
    refine ⟨hknown hm, ?_⟩
    have hlookup : (s.step e).1.entries.known? flight.host = some addresses := by
      rw [hknown hm, Entries.known?_eq_some, Entries.get?_replace, if_pos ⟨rfl, hm⟩]
      exact ⟨rfl, hne⟩
    have hn : (s.step e).1.Numbered := ((numbered_fresh settings now).after _).step e
    rw [step_lookup_known hn hlookup]
  · have hm := mt hhosts.1 hnot
    exact ⟨hunknown hm, hm⟩

/-- A host is cleared while it is refreshed, and another is looked up meanwhile. -/
theorem CacheState.late_answer_dropped :
    let fresh := CacheState.fresh .default ⟨0⟩
    let before : List (CacheEvent Unit) :=
      [.start (.lookup "a"), .answer 0 (some (.ok ["10.0.0.1"])) none, .start (.refresh ["a"])]
    let after : List (CacheEvent Unit) :=
      [.start (.lookup "b"), .answer 2 (some (.ok ["10.0.0.3"])) none]
    let s := fresh.after (before ++ .clear :: after)
    let late : CacheEvent Unit := .answer 1 (some (.ok ["10.0.0.2"])) none
    let flight : Flight := .start 1 "a" ⟨0⟩ Settings.default.lookupTimeout
    s.refreshEnded? late = some (flight, .ok ["10.0.0.2"])
      ∧ (s.step late).1.entries = s.entries ∧ flight.host ∉ s.entries.hosts := by
  intro fresh before after s late flight
  have hended : s.refreshEnded? late = some (flight, .ok ["10.0.0.2"]) := by
    subst s late flight fresh before after
    rfl
  have hcleared : (fresh.after (before ++ [.clear])).entries.hosts = [] := by decide +kernel
  have hhosts : s.entries.hosts = ["b"] := by decide +kernel
  have hstored : ¬ (fresh.after (before ++ [.clear])).Stored after "a" := by
    rw [← mem_hosts_iff_stored_of_nil hcleared, ← after_append, ← List.append_cons, hhosts]
    decide
  have hnot := (late_answer .default ⟨0⟩ before after hended).2 hstored
  with_reducible exact ⟨hended, hnot⟩

/-- A host is cleared while it is refreshed, and looked up and stored again before that refresh has
its answer. The answer from before the clear takes the place of the one from after it, and is what
lookups are answered with from then on. -/
theorem CacheState.clear_not_final :
    let fresh := CacheState.fresh .default ⟨0⟩
    let before : List (CacheEvent Unit) :=
      [.start (.lookup "a"), .answer 0 (some (.ok ["10.0.0.1"])) none, .start (.refresh ["a"])]
    let after : List (CacheEvent Unit) :=
      [.start (.lookup "a"), .answer 2 (some (.ok ["10.0.0.3"])) none]
    let s := fresh.after (before ++ .clear :: after)
    let late : CacheEvent Unit := .answer 1 (some (.ok ["10.0.0.2"])) none
    let flight : Flight := .start 1 "a" ⟨0⟩ Settings.default.lookupTimeout
    flight ∈ asked (fresh.effects before)
      ∧ s.refreshEnded? late = some (flight, .ok ["10.0.0.2"])
      ∧ s.entries.list = [("a", ["10.0.0.3"])]
      ∧ (s.step late).1.entries.list = [("a", ["10.0.0.2"])]
      ∧ ((s.step late).1.step (.start (.lookup "a") : CacheEvent Unit)).2
        = [.finished 3 (.addresses (.ok ["10.0.0.2"]))] := by
  refine ⟨?_, by rfl, by decide +kernel, by decide +kernel, by rfl⟩
  decide +kernel

end HostDialing

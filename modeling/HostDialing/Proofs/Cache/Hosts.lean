import HostDialing.Proofs.Cache.Completion

/-!
# Hosts beside one another

What operations do for a host depends on its entry and on how often the resolver was asked for it,
and on nothing else: an operation on another host leaves both as they are, and a pass or a clear
does to each host what its own entry and calls say (`Peers.now_congr`). So the operations on other
hosts can be left out, and all that is seen of the host stays the same (`Sequence.host_alone`).
Hosts are compared as exact text.
-/

namespace HostDialing

variable {γ : Type}

/-- The host that an operation looks up. A dial without a target looks up none. -/
def Operation.host? : Operation → Option String
  | lookup host => some host
  | prewarm host => some host
  | sockets host _ => some host
  | dial _ addr _ =>
    match Target.parse addr with
    | .ok target => some target.host
    | .error _ => none
  | _ => none

/-- The operation is one on the host, or one on all hosts. -/
def Operation.concerns (host : String) : Operation → Bool
  | refresh => true
  | pass => true
  | clear => true
  | op => op.host? == some host

/-- What is seen of a host at the end of an operation: the result of the operation if it is one on
the host, the entry, and how often the resolver has been asked. -/
structure Observation (γ : Type) where
  results : List (TaskResult γ)
  entry : Option (List String)
  calls : Nat

/-- What a cache at rest and its resolver know of a host. -/
def Surroundings.view (s : Surroundings (String → Nat)) (host : String) :
    Option (List String) × Nat :=
  (s.entries.get? host, s.world host)

namespace Peers

variable {w : Peers γ}

/-- What is seen of a host in the course of operations, each of which is done at once. -/
def observedNow (w : Peers γ) (limit : Duration) (host : String) :
    List Operation → Surroundings (String → Nat) → List (Observation γ)
  | [], _ => []
  | op :: ops, s =>
    let r := op.now w.resolver w.connector limit s
    let rest := observedNow w limit host ops r.2
    if op.concerns host then
      ⟨if op.host? = some host then r.1.toList else [], r.2.entries.get? host, r.2.world host⟩
        :: rest
    else rest

/-- What operations leave, each of which is done at once. -/
def leftNow (w : Peers γ) (limit : Duration) :
    List Operation → Surroundings (String → Nat) → Surroundings (String → Nat)
  | [], s => s
  | op :: ops, s => leftNow w limit ops (op.now w.resolver w.connector limit s).2

section lookup

variable (limit : Duration) {host : String} {s s' : Surroundings (String → Nat)}

theorem lookupNow_congr (h : s.view host = s'.view host) :
    (lookupNow w.resolver limit host s).1 = (lookupNow w.resolver limit host s').1
      ∧ (lookupNow w.resolver limit host s).2.view host
        = (lookupNow w.resolver limit host s').2.view host := by
  obtain ⟨hentry, hcalls⟩ := Prod.mk.inj h
  simp only [lookupNow, Entries.known?, hentry, resolver, hcalls]
  split
  · exact ⟨rfl, h⟩
  · split
    · refine ⟨rfl, Prod.ext ?_ ?_⟩ <;> simp [Surroundings.view, Entries.get?_insert]
    · refine ⟨rfl, Prod.ext ?_ ?_⟩ <;> simp [Surroundings.view, hentry]

theorem lookupNow_other {other : String} (h : other ≠ host) :
    (lookupNow w.resolver limit host s).2.view other = s.view other := by
  simp only [lookupNow, resolver]
  split
  · rfl
  · split
    · refine Prod.ext ?_ ?_ <;> simp [Surroundings.view, Entries.get?_insert, h]
    · refine Prod.ext ?_ ?_ <;> simp [Surroundings.view, h]

theorem lookupNow_nodup (h : s.entries.hosts.Nodup) :
    (lookupNow w.resolver limit host s).2.entries.hosts.Nodup := by
  simp only [lookupNow]
  split
  · exact h
  · split
    · exact Entries.nodup_hosts_insert h _ _
    · exact h

/-- An operation on a host looks it up, and ends with what that comes to. -/
theorem now_of_host {op : Operation} (h : op.host? = some host) :
    ∃ result : Except ResolutionError (List String) → TaskResult γ, ∀ s,
      op.now w.resolver w.connector limit s
        = (some (result (lookupNow w.resolver limit host s).1),
          (lookupNow w.resolver limit host s).2) := by
  obtain ⟨request, goal, hsought, hop⟩ : ∃ request goal,
      (CacheState.fresh .default ⟨0⟩).sought? request = some (host, goal)
        ∧ (CacheEvent.start request : CacheEvent γ).operation? = some op := by
    rcases op with name | name | ⟨name, order⟩ | ⟨network, addr, order⟩ | _ | _ | _
    · exact ⟨.lookup name, .addresses, by rw [← Option.some.inj h]; rfl, rfl⟩
    · exact ⟨.prewarm name, .warmth, by rw [← Option.some.inj h]; rfl, rfl⟩
    · exact ⟨.sockets name order, .sockets order, by rw [← Option.some.inj h]; rfl, rfl⟩
    · simp only [Operation.host?] at h
      split at h
      · rename_i target hparse
        obtain rfl := Option.some.inj h
        let request : DialRequest := ⟨network, addr, order, .single 0⟩
        have hparse : Target.parse request.addr = .ok target := hparse
        refine ⟨.dial request, .dial request target.port, ?_, rfl⟩
        simp only [CacheState.sought?, hparse]
        rfl
      · simp at h
    all_goals simp [Operation.host?] at h
  exact ⟨w.comesTo (fun _ => 0) host goal, fun s => by
    rw [now_of_sought limit hsought hop s, comesTo_congr]⟩

end lookup

section refresh

variable (limit : Duration) {s s' : Surroundings (String → Nat)}

/-- What a pass does to a host. -/
theorem refreshNow_view (hn : s.entries.hosts.Nodup) (host : String) :
    (refreshNow w.resolver limit s).2.view host
      = ((s.entries.get? host).map fun old => (w.outcome limit s.world host).toOption.getD old,
        s.world host + if (s.entries.get? host).isSome then 1 else 0) := by
  have hr : refreshNow w.resolver limit s = _ := w.refreshNow_eq limit hn
  rw [hr, Surroundings.view, Entries.get?_renewed]
  rcases hentry : s.entries.get? host with _ | addresses
  · have hm : host ∉ s.entries.hosts := by
      rw [← Entries.isSome_get?_iff, hentry]
      simp
    simp [List.count_eq_zero_of_not_mem hm]
  · have hm : host ∈ s.entries.hosts := by
      rw [← Entries.isSome_get?_iff, hentry]
      rfl
    simp [hm, List.count_eq_one_of_mem hn hm]

theorem refreshNow_hosts (hn : s.entries.hosts.Nodup) :
    (refreshNow w.resolver limit s).2.entries.hosts = s.entries.hosts := by
  have hr : refreshNow w.resolver limit s = _ := w.refreshNow_eq limit hn
  rw [hr]
  exact Entries.hosts_renewed _ _

theorem refreshNow_congr {host : String} (h : s.view host = s'.view host)
    (hn : s.entries.hosts.Nodup) (hn' : s'.entries.hosts.Nodup) :
    (refreshNow w.resolver limit s).2.view host
      = (refreshNow w.resolver limit s').2.view host := by
  obtain ⟨hentry, hcalls⟩ := Prod.mk.inj h
  rw [refreshNow_view limit hn, refreshNow_view limit hn', hentry, hcalls, outcome, outcome, hcalls]

end refresh

section operation

variable (limit : Duration) {op : Operation} {s s' : Surroundings (String → Nat)}

/-- An operation looks up a host, or is one on all hosts, or changes nothing. -/
theorem now_cases (op : Operation) : (∃ host, op.host? = some host)
    ∨ (op = .refresh ∨ op = .pass ∨ op = .clear)
    ∨ ∀ s, (op.now w.resolver w.connector limit s).2 = s := by
  rcases op with host | host | ⟨host, order⟩ | ⟨network, addr, order⟩ | _ | _ | _
  case dial =>
    rcases hparse : Target.parse addr with error | target
    · exact .inr (.inr fun s => by simp only [Operation.now, dialNow, hparse])
    · exact .inl ⟨target.host, by simp only [Operation.host?, hparse]⟩
  all_goals simp [Operation.host?]

theorem now_nodup (h : s.entries.hosts.Nodup) :
    (op.now w.resolver w.connector limit s).2.entries.hosts.Nodup := by
  rcases now_cases (w := w) limit op with ⟨host, hop⟩ | (rfl | rfl | rfl) | hsame
  · obtain ⟨result, hnow⟩ := now_of_host (w := w) limit hop
    rw [hnow]
    exact lookupNow_nodup limit h
  · exact (refreshNow_hosts limit h).symm ▸ h
  · exact (refreshNow_hosts limit h).symm ▸ h
  · exact List.nodup_nil
  · rw [hsame]
    exact h

/-- An operation that concerns a host does the same for it wherever the same is known of it. -/
theorem now_congr {host : String} (hop : op.concerns host) (h : s.view host = s'.view host)
    (hn : s.entries.hosts.Nodup) (hn' : s'.entries.hosts.Nodup) :
    (op.now w.resolver w.connector limit s).2.view host
        = (op.now w.resolver w.connector limit s').2.view host
      ∧ (op.host? = some host → (op.now w.resolver w.connector limit s).1
        = (op.now w.resolver w.connector limit s').1) := by
  by_cases hhost : op.host? = some host
  · obtain ⟨result, hnow⟩ := now_of_host (w := w) limit hhost
    obtain ⟨hresult, hview⟩ := lookupNow_congr (w := w) limit h
    rw [hnow, hnow, hresult]
    exact ⟨hview, fun _ => rfl⟩
  refine ⟨?_, fun hh => absurd hh hhost⟩
  have hall : op = .refresh ∨ op = .pass ∨ op = .clear := by
    cases op <;> simp_all [Operation.concerns]
  rcases hall with rfl | rfl | rfl
  · exact refreshNow_congr limit h hn hn'
  · exact refreshNow_congr limit h hn hn'
  · exact Prod.ext rfl (Prod.mk.inj h).2

/-- An operation that does not concern a host leaves what is known of it. -/
theorem now_other {host : String} (hop : ¬ op.concerns host) :
    (op.now w.resolver w.connector limit s).2.view host = s.view host := by
  rcases now_cases (w := w) limit op with ⟨name, hname⟩ | (rfl | rfl | rfl) | hsame
  · obtain ⟨result, hnow⟩ := now_of_host (w := w) limit hname
    rw [hnow]
    refine lookupNow_other limit ?_
    rintro rfl
    cases op <;> simp_all [Operation.concerns, Operation.host?]
  · exact absurd rfl hop
  · exact absurd rfl hop
  · exact absurd rfl hop
  · rw [hsame]

end operation

/-- What is seen of a host where all is done at once does not depend on the operations on other
hosts. -/
theorem observedNow_filter (limit : Duration) (host : String) (ops : List Operation) :
    ∀ {s s' : Surroundings (String → Nat)}, s.view host = s'.view host →
      s.entries.hosts.Nodup → s'.entries.hosts.Nodup →
      observedNow w limit host (ops.filter (·.concerns host)) s' = observedNow w limit host ops s
        ∧ (leftNow w limit (ops.filter (·.concerns host)) s').view host
          = (leftNow w limit ops s).view host := by
  induction ops with
  | nil => exact fun h _ _ => ⟨rfl, h.symm⟩
  | cons op ops ih =>
    intro s s' h hn hn'
    by_cases hop : op.concerns host
    · obtain ⟨hview, hresult⟩ := now_congr (w := w) limit hop h hn hn'
      obtain ⟨hobserved, hleft⟩ := ih hview (now_nodup limit hn) (now_nodup limit hn')
      obtain ⟨hentry, hcalls⟩ := Prod.mk.inj hview
      rw [List.filter_cons_of_pos hop]
      refine ⟨?_, hleft⟩
      simp only [observedNow, if_pos hop, hobserved, hentry, hcalls]
      by_cases hhost : op.host? = some host
      · rw [if_pos hhost, if_pos hhost, hresult hhost]
      · rw [if_neg hhost, if_neg hhost]
    · rw [List.filter_cons_of_neg hop]
      obtain ⟨hobserved, hleft⟩ :=
        ih ((now_other (w := w) limit hop).trans h) (now_nodup limit hn) hn'
      refine ⟨?_, hleft⟩
      simp only [observedNow, if_neg hop, hobserved]

end Peers

/-- What is seen of a host in the course of turns, where `past` is what the cache has done so
far. -/
def CacheState.observed (host : String) :
    (past : List (CacheEffect γ)) → CacheState → List (Turn γ) → List (Observation γ)
  | _, _, [] => []
  | past, s, t :: ts =>
    let effects := s.effects t.events
    let left := s.after t.events
    let rest := observed host (past ++ effects) left ts
    match t.begins.operation? with
    | none => rest
    | some op =>
      if op.concerns host then
        ⟨if op.host? = some host then resultsOf s.nextTask effects else [],
          left.entries.get? host, callsFor (past ++ effects) host⟩ :: rest
      else rest

/-- A run of a cache in which one operation follows another, with nothing but these peers. -/
structure Sequence (w : Peers γ) where
  settings : Settings
  now : Instant
  turns : List (Turn γ)
  inTurns : (CacheState.fresh settings now).InTurns turns
  served : w.Serve [] (CacheState.fresh settings now) (turns.flatMap Turn.events)

namespace Sequence

variable {w : Peers γ}

def operations (r : Sequence w) : List Operation :=
  operationsOf r.turns

/-- What is seen of a host, operation by operation. -/
def observed (r : Sequence w) (host : String) : List (Observation γ) :=
  (CacheState.fresh r.settings r.now).observed host [] r.turns

/-- How often the resolver is asked for a host. -/
def calls (r : Sequence w) (host : String) : Nat :=
  callsFor ((CacheState.fresh r.settings r.now).effects (r.turns.flatMap Turn.events)) host

/-- What is seen of a host in the course of turns is what is seen of it where each operation is done
at once. -/
theorem observed_eq_now (settings : Settings) (now : Instant) (host : String)
    (turns : List (Turn γ)) :
    ∀ history : List (CacheEvent γ),
      let s := (CacheState.fresh settings now).after history
      let past := (CacheState.fresh settings now).effects history
      let ops := operationsOf turns
      let limit := settings.lookupTimeout
      s.IsQuiet → s.cancelled = [] → s.InTurns turns →
        w.Serve past s (turns.flatMap Turn.events) →
        s.observed host past turns = w.observedNow limit host ops ⟨s.entries, callsFor past⟩
          ∧ callsFor (past ++ s.effects (turns.flatMap Turn.events)) host
            = (w.leftNow limit ops ⟨s.entries, callsFor past⟩).world host := by
  induction turns with
  | nil =>
    intro history s past ops limit _ _ _ _
    refine ⟨rfl, ?_⟩
    rw [List.flatMap_nil, CacheState.effects, List.append_nil]
    rfl
  | cons t ts ih =>
    intro history s past ops limit hs hc hturns hw
    obtain ⟨⟨op, ht⟩, hturns⟩ := hturns
    have hreach : s.Reachable γ := ⟨settings, now, history, rfl⟩
    have hfresh := CacheState.numbered_fresh settings now
    have hpast := CacheState.call_lt_of_asked settings now history
    rw [List.flatMap_cons] at hw ⊢
    obtain ⟨hserve, hw⟩ := Peers.serve_append.1 hw
    obtain ⟨hresults, hentries, hworld⟩ :=
      Peers.turn_eq_now hs hc hreach.hosts_nodup hpast ht hserve
    have hsettings : s.settings = settings := hfresh.settings_after history
    rw [hsettings] at hresults hentries hworld
    have hleft : (op.now w.resolver w.connector limit ⟨s.entries, callsFor past⟩).2
        = ⟨(s.after t.events).entries, callsFor (past ++ s.effects t.events)⟩ := by
      rw [hentries, hworld]
    have hnext' := ih (history ++ t.events)
    rw [CacheState.after_append, CacheState.effects_append] at hnext'
    obtain ⟨hobserved, hcount⟩ := hnext' ht.ends ((ht.keeps hc).cancelled.trans hc) hturns hw
    have hops : ops = op :: operationsOf ts := operationsOf_cons ht.begins ts
    rw [hops]
    constructor
    · simp only [CacheState.observed, ht.begins, Peers.observedNow, hleft, hresults]
      rw [hobserved]
    · rw [CacheState.effects_append, ← List.append_assoc, hcount, Peers.leftNow, hleft]

/-- Operations can be left out of a sequence. -/
theorem exists_filter (r : Sequence w) (keep : Operation → Bool) :
    ∃ r' : Sequence w, r'.settings = r.settings ∧ r'.now = r.now
      ∧ r'.operations = r.operations.filter keep := by
  obtain ⟨turns, hops, hturns, hserve⟩ := w.exists_turns r.settings r.now
    (r.operations.filter keep) [] (CacheState.isQuiet_fresh _ _) rfl rfl
    fun hpass => r.inTurns.background (List.mem_of_mem_filter hpass)
  exact ⟨⟨r.settings, r.now, turns, hturns, hserve⟩, rfl, rfl, hops⟩

/-- All operations on other hosts can be left out, and whenever they are, and however that shifts
what is left in time, nothing is changed of what is seen of a host: the results of the operations on
it, its entry after each of these and after each pass and clear, and how often the resolver has been
asked for it. -/
theorem host_alone (r : Sequence w) (host : String) :
    (∃ r' : Sequence w, r'.settings = r.settings ∧ r'.now = r.now
      ∧ r'.operations = r.operations.filter (·.concerns host))
    ∧ ∀ r' : Sequence w, r'.settings.lookupTimeout = r.settings.lookupTimeout →
      r'.operations = r.operations.filter (·.concerns host) →
        r'.observed host = r.observed host ∧ r'.calls host = r.calls host := by
  refine ⟨r.exists_filter _, fun r' hlimit hops => ?_⟩
  have hnow : ∀ q : Sequence w,
      q.observed host
          = w.observedNow q.settings.lookupTimeout host q.operations ⟨.empty, callsFor []⟩
        ∧ q.calls host
          = (w.leftNow q.settings.lookupTimeout q.operations ⟨.empty, callsFor []⟩).world host :=
    fun q => observed_eq_now q.settings q.now host q.turns []
      (CacheState.isQuiet_fresh q.settings q.now) rfl q.inTurns q.served
  obtain ⟨hobserved, hcalls⟩ := hnow r
  obtain ⟨hobserved', hcalls'⟩ := hnow r'
  obtain ⟨hsame, hleft⟩ := Peers.observedNow_filter (w := w) r.settings.lookupTimeout host
    r.operations (s := ⟨.empty, callsFor []⟩) rfl List.nodup_nil List.nodup_nil
  rw [hobserved, hobserved', hcalls, hcalls', hlimit, hops, hsame]
  exact ⟨rfl, (Prod.mk.inj hleft).2⟩

/-- Each time that it is asked for a host the resolver has one address more. -/
def growing : Peers Unit where
  answers _ n := some (.ok (List.replicate (n + 1) "10.0.0.1"))
  connect _ _ := .ok ()

/-- Two hosts are looked up whose names differ in the case of a letter, and both are refreshed. -/
def twoHosts : Sequence growing where
  settings := .default
  now := ⟨0⟩
  turns := [
    ⟨0, .start (.lookup "a"), [.answer 0 (some (.ok ["10.0.0.1"])) none]⟩,
    ⟨0, .start (.prewarm "A"), [.answer 1 (some (.ok ["10.0.0.1"])) none]⟩,
    ⟨0, .start (.refresh ["A", "a"]),
      [.answer 3 (some (.ok ["10.0.0.1", "10.0.0.1"])) none,
        .answer 2 (some (.ok ["10.0.0.1", "10.0.0.1"])) none]⟩]
  inTurns := by
    refine ⟨⟨.lookup "a", rfl, nofun, ?_, ?_⟩, ⟨.prewarm "A", rfl, nofun, ?_, ?_⟩,
      ⟨.refresh, rfl, nofun, ?_, ?_⟩, trivial⟩
    all_goals first | decide +kernel | simp [CacheEvent.Attends]
  served := by
    refine ⟨.of_other nofun nofun, .of_other nofun nofun, .of_ended rfl, .of_other nofun nofun,
      .of_other nofun nofun, .of_ended rfl, .of_other nofun nofun, .of_other nofun nofun,
      .of_ended rfl, .of_ended rfl, trivial⟩

/-- The same without the other host. -/
def oneHost : Sequence growing where
  settings := .default
  now := ⟨0⟩
  turns := [
    ⟨0, .start (.lookup "a"), [.answer 0 (some (.ok ["10.0.0.1"])) none]⟩,
    ⟨0, .start (.refresh ["a"]),
      [.answer 1 (some (.ok ["10.0.0.1", "10.0.0.1"])) none]⟩]
  inTurns := by
    refine ⟨⟨.lookup "a", rfl, nofun, ?_, ?_⟩, ⟨.refresh, rfl, nofun, ?_, ?_⟩, trivial⟩
    all_goals first | decide +kernel | simp [CacheEvent.Attends]
  served := by
    refine ⟨.of_other nofun nofun, .of_other nofun nofun, .of_ended rfl, .of_other nofun nofun,
      .of_other nofun nofun, .of_ended rfl, trivial⟩

theorem one_of_two_hosts :
    oneHost.operations = twoHosts.operations.filter (·.concerns "a")
      ∧ oneHost.observed "a" = twoHosts.observed "a" ∧ oneHost.calls "a" = twoHosts.calls "a"
      ∧ (twoHosts.calls "a", twoHosts.calls "A") = (2, 2) := by
  have hops : oneHost.operations = twoHosts.operations.filter (·.concerns "a") := rfl
  obtain ⟨hobserved, hcalls⟩ := (host_alone twoHosts "a").2 oneHost rfl hops
  exact ⟨hops, hobserved, hcalls, by decide +kernel⟩

end Sequence

end HostDialing

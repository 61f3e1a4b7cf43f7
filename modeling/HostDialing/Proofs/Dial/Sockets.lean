import HostDialing.Proofs.Cache.KnownHosts
import HostDialing.Proofs.Cache.Plain
import HostDialing.Proofs.Dial.Order

/-!
# Sockets and candidates

A request for the sockets of a host and a dial of it go over the same addresses, if their lookups
come to the same list and their orders are the same (`SocketsRun.agrees_with_dial`). The request
keeps those of them that are literals of an IP address; a dial that fails everywhere tries them all.
To the cache the request is a plain lookup, so where it has nothing to give the entry stays.
-/

namespace HostDialing

variable {γ : Type}

theorem socketsAt_eq_nil_iff {addresses : List String} {positions : List Nat} :
    socketsAt addresses positions = []
      ↔ ∀ a ∈ inOrder addresses positions, IpAddress.parse? a = none := by
  simp only [socketsAt, List.filterMap_eq_nil_iff, Option.map_eq_none_iff]

theorem usableSockets_of_ne_nil {addresses : List String} {positions : List Nat}
    (h : socketsAt addresses positions ≠ []) (host : String) :
    usableSockets host addresses positions = .ok (socketsAt addresses positions) := by
  unfold usableSockets
  split
  · rename_i hnil
    exact absurd hnil h
  · rfl

theorem usableSockets_eq_error_iff {addresses : List String} {positions : List Nat}
    (host : String) :
    usableSockets host addresses positions = .error (.noAddresses host)
      ↔ socketsAt addresses positions = [] := by
  constructor
  · intro h
    by_contra hne
    rw [usableSockets_of_ne_nil hne] at h
    cases h
  · intro h
    rw [usableSockets, h]

theorem DialRun.calls_of_allFail {r : DialRun γ} (h : r.AllFail) :
    r.calls = (inOrder r.addresses r.order).map fun a =>
      (r.request.network, joinHostPort a r.target.port) := by
  by_cases hne : r.addresses = []
  · rw [(r.fails_of_nil hne).1, hne]
    simp [inOrder]
  obtain ⟨errors, houtcomes, hlength⟩ := h
  have hover := r.failsOver hne
  rw [houtcomes] at hover
  rw [hover.connects_of_errors hlength, candidates, List.map_map]
  rfl

/-- A run of a cache that begins with a request for the sockets of a host and in which, whatever
else happens, its lookup comes to something. The request is not aborted. -/
structure SocketsRun (γ : Type) where
  state : CacheState
  host : String
  order : CandidateOrder
  found : Except ResolutionError (List String)
  before : List (CacheEvent γ)
  /-- The event with which the lookup comes to `found`. -/
  event : CacheEvent γ
  after : List (CacheEvent γ)
  reachable : state.Reachable γ
  begins : (before ++ event :: after).head? = some (.start (.sockets host order))
  lookup : (state.after before).lookedUp? event = some (state.nextTask, host, found)
  kept : .abort state.nextTask ∉ before ++ event :: after

namespace SocketsRun

variable (r : SocketsRun γ)

def results : List (TaskResult γ) :=
  resultsOf r.state.nextTask (r.state.effects (r.before ++ r.event :: r.after))

/-- The cache as the lookup leaves it. -/
def left : CacheState := ((r.state.after r.before).step r.event).1

variable {r}

theorem results_eq (r : SocketsRun γ) : r.results = [.sockets (match r.found with
    | .ok addresses => usableSockets r.host addresses (r.order addresses.length)
    | .error error => .error error)] := by
  have hn := r.reachable.numbered
  obtain ⟨es, hrun⟩ := List.head?_eq_some_iff.1 r.begins
  have hsought : r.state.sought? (.sockets r.host r.order) = some (r.host, .sockets r.order) := rfl
  obtain ⟨s', -, hnow, hlt, -, hresults⟩ := CacheState.done_of_found hn hsought hrun.symm r.lookup
    rfl fun hm => r.kept (hrun ▸ List.mem_cons_of_mem _ hm)
  have hn₁ := hnow ▸ (hn.after r.before).step r.event
  have hgone : (s'.reach r.state.nextTask r.host (.sockets r.order) r.found :
      Stepped γ).1.task? r.state.nextTask = none := by
    rcases r.found with error | addresses
    · exact s'.task?_removeTask_self _
    · exact s'.task?_removeTask_self _
  obtain ⟨-, hnone⟩ := connectsOf_eq_nil (CacheState.nothing_after_end hn₁ hlt hgone r.after)
  rw [results, hresults, resultsOf_append, hnone]
  rcases r.found with error | addresses
  · simp [resultsOf, CacheState.reach]
  · simp [resultsOf, CacheState.reach]

/-- A lookup that fails stores nothing. -/
theorem entries_left {error : ResolutionError} (h : r.found = .error error) :
    r.left.entries = (r.state.after r.before).entries := by
  have hlookup := r.lookup
  rw [h] at hlookup
  rcases CacheState.lookedUp_cases hlookup with ⟨request, goal, addresses, -, -, -, -, hok⟩
    | ⟨goal, flight, answer, hended, hhost, herror⟩
  · cases hok
  · have hne : r.event ≠ .clear := by
      intro he
      simp [he, CacheState.ended?] at hended
    rw [left, CacheState.step_entries _ _ hne, hended]
    simp only [Owner.stored, Owner.flight, hhost, ← herror]

/-- To the cache the request is a plain lookup. -/
theorem plain_eq (s : CacheState) (host : String) (order : CandidateOrder)
    (es : List (CacheEvent γ)) :
    let t := s.after (.start (.sockets host order) :: es)
    let t' := s.after (.start (.lookup host) :: es)
    t.plain = t'.plain ∧ t.entries = t'.entries
      ∧ asked (s.effects (.start (.sockets host order) :: es))
        = asked (s.effects (.start (.lookup host) :: es)) := by
  intro t t'
  obtain ⟨hafter, hasked⟩ := CacheState.after_plain (.start (.sockets host order) :: es) s
  obtain ⟨hafter', hasked'⟩ := CacheState.after_plain (.start (.lookup host) :: es) s
  have hplain : t.plain = t'.plain := hafter.symm.trans hafter'
  have hentries := congrArg CacheState.entries hplain
  exact ⟨hplain, hentries, hasked.symm.trans hasked'⟩

/-- A request for sockets that is given the same addresses in the same order as a dial which fails
everywhere: it yields, in order and without a port, the literals of an IP address among those that
the dial tries. It yields nothing if and only if none of them is a literal. In every case it leaves
the cache as a plain lookup of the host does; so a lookup that fails stores nothing, and where there
is no literal the entry stays and the next request for the host asks nobody. -/
theorem agrees_with_dial (r : SocketsRun γ) :
    (∀ es : List (CacheEvent γ),
      let t := r.state.after (.start (.sockets r.host r.order) :: es)
      let t' := r.state.after (.start (.lookup r.host) :: es)
      t.plain = t'.plain ∧ t.entries = t'.entries
        ∧ asked (r.state.effects (.start (.sockets r.host r.order) :: es))
          = asked (r.state.effects (.start (.lookup r.host) :: es)))
    ∧ (∀ error, r.found = .error error → r.results = [.sockets (.error error)]
      ∧ r.left.entries = (r.state.after r.before).entries)
    ∧ ∀ addresses, r.found = .ok addresses →
      let tried := inOrder addresses (r.order addresses.length)
      let sockets := tried.filterMap fun a =>
        (IpAddress.parse? a).map fun ip => (⟨ip, 0, 0⟩ : SocketAddress)
      (∀ dial : DialRun γ, dial.addresses = addresses → dial.order = r.order addresses.length →
        dial.AllFail →
          dial.calls = tried.map fun a => (dial.request.network, joinHostPort a dial.target.port))
      ∧ (sockets ≠ [] → r.results = [.sockets (.ok sockets)])
      ∧ (r.results = [.sockets (.error (.noAddresses r.host))]
        ↔ ∀ a ∈ tried, IpAddress.parse? a = none)
      ∧ r.left.entries.get? r.host = some addresses
      ∧ ∀ request goal, r.left.sought? request = some (r.host, goal) →
        r.left.lookedUp? (.start request : CacheEvent γ)
            = some (r.left.nextTask, r.host, .ok addresses)
          ∧ asked (r.left.step (.start request : CacheEvent γ)).2 = [] := by
  refine ⟨plain_eq r.state r.host r.order, fun error h => ⟨?_, entries_left h⟩, ?_⟩
  · rw [r.results_eq, h]
  intro addresses h tried sockets
  have hresults : r.results
      = [.sockets (usableSockets r.host addresses (r.order addresses.length))] := by
    rw [r.results_eq, h]
  have hlookup := r.lookup
  rw [h] at hlookup
  have hentry : r.left.entries.get? r.host = some addresses := CacheState.entry_of_lookedUp hlookup
  have hleft : r.left.Reachable γ := (r.reachable.after r.before).after [r.event]
  refine ⟨?_, fun hne => ?_, ?_, hentry, fun request goal hrequest =>
    CacheState.lookUp_known (hleft.known_of_entry hentry) hrequest⟩
  · intro dial haddresses horder hfail
    rw [DialRun.calls_of_allFail hfail, haddresses, horder]
  · rw [hresults, usableSockets_of_ne_nil hne]
    rfl
  · rw [hresults, ← socketsAt_eq_nil_iff, ← usableSockets_eq_error_iff r.host]
    simp

/-- The order names the second address twice, and it is a name. -/
def named : SocketsRun Unit where
  state := CacheState.fresh .default ⟨0⟩
  host := "db"
  order := fun _ => [1, 7, 1]
  found := .ok ["10.0.0.1", "backend"]
  before := [.start (.sockets "db" fun _ => [1, 7, 1])]
  event := .answer 0 (some (.ok ["10.0.0.1", "backend"])) none
  after := []
  reachable := CacheState.reachable_default
  begins := rfl
  lookup := rfl
  kept := by simp

theorem named_agrees_with_dial :
    let dial := DialRun.failing ["10.0.0.1", "backend"] (fun _ => [1, 7, 1]) "backend:80"
      "backend:80" (by decide +kernel)
    dial.calls = [("tcp", "backend:80"), ("tcp", "backend:80")]
      ∧ named.results = [.sockets (.error (.noAddresses "db"))]
      ∧ named.left.entries.get? "db" = some ["10.0.0.1", "backend"] := by
  intro dial
  obtain ⟨-, -, hfound⟩ := named.agrees_with_dial
  obtain ⟨hcalls, -, hnone, hentry, -⟩ := hfound _ rfl
  have hmade : dial.calls = [("tcp", "backend:80"), ("tcp", "backend:80")] := by decide +kernel
  have hfail : dial.AllFail :=
    ⟨[noSuchHost "backend:80", noSuchHost "backend:80"], rfl, by rw [hmade]; rfl⟩
  have htried := hcalls dial rfl rfl hfail
  refine ⟨htried.trans (by decide +kernel), hnone.2 (by decide +kernel), hentry⟩

end SocketsRun

end HostDialing

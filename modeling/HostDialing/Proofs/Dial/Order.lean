import HostDialing.Dial.Shuffle
import HostDialing.Proofs.Dial.Failover

/-!
# The order of the candidates

A dial tries the addresses of its host in an order that a strategy gives. With a connector that goes
by network and address alone, and an order that has each position once, the order decides which
address is tried first and whose error is reported, but not whether the dial succeeds
(`DialRun.succeeds_in_any_order`).
-/

namespace HostDialing

variable {γ : Type}

theorem filterMap_getElem?_range {α : Type} (l : List α) :
    (List.range l.length).filterMap (l[·]?) = l := by
  induction l with
  | nil => rfl
  | cons a l ih =>
    rw [List.length_cons, List.range_succ_eq_map, List.filterMap_cons, List.filterMap_map]
    exact congrArg (a :: ·) ih

/-- An order that has each position once leaves no address out and takes none twice. -/
theorem inOrder_perm {addresses : List String} {positions : List Nat}
    (h : positions.Perm (List.range addresses.length)) :
    (inOrder addresses positions).Perm addresses := by
  have hp := h.filterMap (addresses[·]?)
  rwa [filterMap_getElem?_range] at hp

theorem map_some_filterMap {α β : Type} {f : α → Option β} {l : List α}
    (h : ∀ a ∈ l, (f a).isSome) : (l.filterMap f).map some = l.map f := by
  induction l with
  | nil => rfl
  | cons a l ih =>
    obtain ⟨b, hb⟩ := Option.isSome_iff_exists.1 (h a List.mem_cons_self)
    rw [List.filterMap_cons_some hb, List.map_cons, List.map_cons, hb,
      ih fun a ha => h a (List.mem_cons_of_mem _ ha)]

theorem swapAt_perm {α : Type} (l : List α) (i j : Nat) : (swapAt l i j).Perm l := by
  unfold swapAt
  split
  · rename_i a b hi hj
    obtain ⟨hilt, rfl⟩ := List.getElem?_eq_some_iff.1 hi
    obtain ⟨hjlt, rfl⟩ := List.getElem?_eq_some_iff.1 hj
    exact List.set_set_perm hilt hjlt
  · exact .refl _

/-- A shuffle loses no entry and repeats none, whatever the choices. -/
theorem shuffle_perm {α : Type} (l : List α) (choices : List Nat) :
    (shuffle l choices).Perm l := by
  induction choices generalizing l with
  | nil => exact .refl _
  | cons j js ih => exact (ih _).trans (swapAt_perm l _ j)

theorem RandomSource.permutation_perm (r : RandomSource) (n : Nat) :
    (r.permutation n).1.Perm (List.range n) :=
  shuffle_perm _ _

/-- Either all outcomes are failures, or there is a connection behind the failures. -/
theorem failures_cases (outcomes : List (Except IoError γ)) :
    (failures outcomes).length = outcomes.length
        ∧ (∀ outcome ∈ outcomes, ∃ error, outcome = .error error)
    ∨ ∃ connection, outcomes[(failures outcomes).length]? = some (.ok connection) := by
  induction outcomes with
  | nil => exact .inl ⟨rfl, by simp⟩
  | cons outcome outcomes ih =>
    rcases outcome with error | connection
    · rcases ih with ⟨hlength, hall⟩ | ⟨connection, hat⟩
      · refine .inl ⟨congrArg (· + 1) hlength, fun outcome hm => ?_⟩
        rcases List.mem_cons.1 hm with rfl | hm
        · exact ⟨error, rfl⟩
        · exact hall outcome hm
      · exact .inr ⟨connection, hat⟩
    · exact .inr ⟨connection, rfl⟩

/-- What a dial comes to if a connector that goes by network and address has answered all of its
calls. -/
theorem FailsOver.cases_of_answered {request : DialRequest} {left : List String}
    {outcomes : List (Except IoError γ)} {connects : List (String × String)}
    {results : List (TaskResult γ)} (h : FailsOver request left outcomes connects results)
    {connect : String → String → Except IoError γ}
    (ha : outcomes = connects.map fun call => connect call.1 call.2) :
    (∃ candidate ∈ left, ∃ connection, connect request.network candidate = .ok connection
      ∧ results = [.dialed (.ok connection)])
    ∨ (∀ candidate ∈ left, ∃ error, connect request.network candidate = .error error)
      ∧ connects = left.map (request.network, ·)
      ∧ ∀ candidate ∈ left.head?, ∃ error, connect request.network candidate = .error error
        ∧ results = [.dialed (.error (.connect error))] := by
  set k := (failures outcomes).length with hk
  have hout : outcomes = (left.take (k + 1)).map (connect request.network) := by
    rw [ha, h.connects, List.map_map]
    rfl
  rcases failures_cases outcomes with ⟨hlength, hall⟩ | ⟨connection, hat⟩
  · have hle : left.length ≤ k := by
      have := congrArg List.length hout
      rw [← hlength, List.length_map, List.length_take] at this
      omega
    have htake : left.take (k + 1) = left := List.take_of_length_le (by omega)
    rw [htake] at hout
    refine .inr ⟨fun candidate hm => ?_, ?_, fun candidate hm => ?_⟩
    · exact hall _ (by rw [hout]; exact List.mem_map_of_mem hm)
    · rw [h.connects, htake]
    · have hne : left ≠ [] := by
        rintro rfl
        simp at hm
      obtain ⟨error, hhead, hresults, -⟩ := h.failed hne hle
      refine ⟨error, ?_, hresults⟩
      rw [hout, List.head?_map, Option.mem_def.1 hm] at hhead
      exact Option.some.inj hhead
  · rw [← hk, hout, List.getElem?_map, Option.map_eq_some_iff] at hat
    obtain ⟨candidate, hat, hconnect⟩ := hat
    obtain ⟨hlt, -⟩ := List.getElem?_eq_some_iff.1 hat
    rw [List.length_take] at hlt
    have hresults := h.tried (by omega)
    rw [← hk, hout, List.getElem?_map, hat, Option.map_some, hconnect] at hresults
    exact .inl ⟨candidate, List.mem_of_mem_take (List.mem_of_getElem? hat), connection, hconnect,
      hresults⟩

/-- A dial that connects has the outcome of the attempt at one of the candidates. -/
theorem FailsOver.connected {request : DialRequest} {left : List String}
    {outcomes : List (Except IoError γ)} {connects : List (String × String)}
    {results : List (TaskResult γ)} (h : FailsOver request left outcomes connects results)
    {connection : γ} (hm : TaskResult.dialed (.ok connection) ∈ results) :
    ∃ (i : Nat) (candidate : String), left[i]? = some candidate
      ∧ connects[i]? = some (request.network, candidate)
      ∧ outcomes[i]? = some (.ok connection) := by
  set k := (failures outcomes).length with hk
  by_cases hne : left = []
  · simp [h.untried hne] at hm
  rcases Nat.lt_or_ge k left.length with hlt | hle
  · have hresults := h.tried hlt
    rw [← hk] at hresults
    refine ⟨k, left[k], List.getElem?_eq_getElem hlt, ?_, ?_⟩
    · rw [h.connects, List.getElem?_map, List.getElem?_take_of_lt (Nat.lt_succ_self k),
        List.getElem?_eq_getElem hlt, Option.map_some]
    · rcases hout : outcomes[k]? with _ | ⟨error | connection'⟩ <;> rw [hout] at hresults
      · simp [hresults] at hm
      · simp [hresults] at hm
      · obtain rfl : connection = connection' := by simpa [hresults] using hm
        rfl
  · obtain ⟨error, -, hresults, -⟩ := h.failed hne hle
    simp [hresults] at hm

theorem failures_map_error (errors : List IoError) :
    failures (errors.map (.error : IoError → Except IoError γ)) = errors := by
  induction errors with
  | nil => rfl
  | cons error errors ih => exact congrArg (error :: ·) ih

/-- A dial of which every call has failed has tried all candidates. -/
theorem FailsOver.connects_of_errors {request : DialRequest} {left : List String}
    {connects : List (String × String)} {results : List (TaskResult γ)} {errors : List IoError}
    (h : FailsOver request left (errors.map .error) connects results)
    (hlength : errors.length = connects.length) :
    connects = left.map (request.network, ·) := by
  have hconnects := h.connects
  rw [failures_map_error] at hconnects
  have hle : left.length ≤ errors.length := by
    rw [hconnects, List.length_map, List.length_take] at hlength
    omega
  rw [hconnects, List.take_of_length_le (Nat.le_succ_of_le hle)]

/-- A run of a cache that begins with a dial and in which, whatever else happens, the lookup of the
dial comes to a list. The dial is neither cancelled nor aborted. -/
structure DialRun (γ : Type) where
  state : CacheState
  request : DialRequest
  target : Target
  addresses : List String
  before : List (CacheEvent γ)
  /-- The event with which the lookup comes to the list. -/
  event : CacheEvent γ
  after : List (CacheEvent γ)
  reachable : state.Reachable γ
  parse : Target.parse request.addr = .ok target
  begins : (before ++ event :: after).head? = some (.start (.dial request))
  /-- An empty list is an error. -/
  lookup : (state.after before).lookedUp? event = some (state.nextTask, target.host,
    resolved target.host state.settings.lookupTimeout (some (.ok addresses)))
  token : request.token ∉ (state.after (before ++ event :: after)).cancelled
  kept : .abort state.nextTask ∉ before ++ event :: after

namespace DialRun

variable (r : DialRun γ)

def effects : List (CacheEffect γ) := r.state.effects (r.before ++ r.event :: r.after)

/-- The positions at which the addresses are to be tried. -/
def order : List Nat := r.request.order r.addresses.length

/-- Each position stands in the order once. -/
def IsOrdered : Prop := r.order.Perm (List.range r.addresses.length)

/-- An order that is drawn has each position once, whatever the source. -/
theorem isOrdered_of_drawn (source : RandomSource)
    (h : r.request.order = fun n => (source.permutation n).1) : r.IsOrdered := by
  rw [IsOrdered, order, h]
  exact source.permutation_perm _

/-- The call for the address at a position. -/
def callAt (i : Nat) : Option (String × String) :=
  r.addresses[i]?.map fun a => (r.request.network, joinHostPort a r.target.port)

/-- The calls of the connector, in order. -/
def calls : List (String × String) := connectsOf r.state.nextTask r.effects

def results : List (TaskResult γ) := resultsOf r.state.nextTask r.effects

/-- All calls were answered, by a connector that goes by network and address alone. -/
def AnsweredBy (connect : String → String → Except IoError γ) : Prop :=
  outcomesOf r.state.nextTask r.after = r.calls.map fun call => connect call.1 call.2

/-- All calls were answered, each with a failure. -/
def AllFail : Prop :=
  ∃ errors : List IoError, outcomesOf r.state.nextTask r.after = errors.map .error
    ∧ errors.length = r.calls.length

def Succeeds : Prop := ∃ connection, r.results = [.dialed (.ok connection)]

/-- The address at some position connects. -/
def Connects (connect : String → String → Except IoError γ) : Prop :=
  ∃ a ∈ r.addresses, ∃ connection,
    connect r.request.network (joinHostPort a r.target.port) = .ok connection

/-- The dial has tried the positions one by one as they are ordered, and it reports the error of
the first. -/
structure Exhausts (connect : String → String → Except IoError γ) : Prop where
  calls : r.calls.map some = r.order.map r.callAt
  error : ∃ error, r.results = [.dialed (.error error)]
    ∧ ∀ i, r.order.head? = some i → ∃ call failure, r.callAt i = some call
      ∧ connect call.1 call.2 = .error failure ∧ error = .connect failure

variable {r}

theorem comesTo (r : DialRun γ) :
    ∃ s' : CacheState, (s'.task? r.state.nextTask).isSome ∧
      let first : Stepped γ := s'.reach r.state.nextTask r.target.host
        (.dial r.request r.target.port)
        (resolved r.target.host r.state.settings.lookupTimeout (some (.ok r.addresses)))
      first.1.Numbered ∧ r.state.nextTask < first.1.nextTask
        ∧ r.request.token ∉ (first.1.after r.after).cancelled
        ∧ r.calls = connectsOf r.state.nextTask (first.2 ++ first.1.effects r.after)
        ∧ r.results = resultsOf r.state.nextTask (first.2 ++ first.1.effects r.after) := by
  have hn := r.reachable.numbered
  obtain ⟨es, hrun⟩ := List.head?_eq_some_iff.1 r.begins
  have hc := r.token
  have hc₀ : r.request.token ∉ r.state.cancelled := fun hm => hc (hn.cancelled_after _ hm)
  have hsought : r.state.sought? (.dial r.request)
      = some (r.target.host, .dial r.request r.target.port) := by
    simp [CacheState.sought?, r.parse, CacheState.isCancelled, hc₀]
  rw [CacheState.after_append] at hc
  have hc₁ : r.request.token ∉ (r.state.after r.before).cancelled := fun hm =>
    hc ((hn.after r.before).cancelled_after (r.event :: r.after) hm)
  obtain ⟨s', hsome, hnow, hlt, hcalls, hresults⟩ :=
    CacheState.done_of_found hn hsought hrun.symm r.lookup
      (by simpa [Goal.cancelled?, CacheState.isCancelled] using hc₁)
      fun hm => r.kept (hrun ▸ List.mem_cons_of_mem _ hm)
  refine ⟨s', hsome, hnow ▸ (hn.after r.before).step r.event, hlt, ?_, hcalls, hresults⟩
  rw [← hnow]
  exact hc

theorem failsOver (hne : r.addresses ≠ []) : FailsOver r.request
    (candidates r.addresses r.order r.target.port) (outcomesOf r.state.nextTask r.after)
    r.calls r.results := by
  obtain ⟨s', hsome, hn, hlt, hc, hcalls, hresults⟩ := r.comesTo
  simp only [resolved_of_ne_nil hne] at hn hlt hc hcalls hresults
  have hfirst := CacheState.reach_dial (γ := γ) hsome r.target.host r.target.port r.addresses
    fun hm => hc (hn.cancelled_after r.after hm)
  have hkept : .abort r.state.nextTask ∉ r.after := fun hm =>
    r.kept (List.mem_append_right _ (List.mem_cons_of_mem _ hm))
  rw [hcalls, hresults, connectsOf_append, resultsOf_append]
  exact CacheState.failsOver_after hn hlt hfirst hkept hc

/-- A dial that is given no addresses makes no call. -/
theorem fails_of_nil (h : r.addresses = []) : r.calls = []
    ∧ r.results = [.dialed (.error (.resolution (.noAddresses r.target.host)))] := by
  obtain ⟨s', -, hn, hlt, -, hcalls, hresults⟩ := r.comesTo
  rw [h] at hn hlt hcalls hresults
  obtain ⟨hnone, hnone'⟩ := connectsOf_eq_nil (CacheState.nothing_after_end hn hlt
    (s'.task?_removeTask_self _) r.after)
  rw [hcalls, hresults, connectsOf_append, resultsOf_append, hnone, hnone']
  simp [connectsOf, resultsOf, CacheState.reach, resolved]

theorem IsOrdered.mem_candidates_iff (h : r.IsOrdered) {candidate : String} :
    candidate ∈ candidates r.addresses r.order r.target.port
      ↔ ∃ a ∈ r.addresses, joinHostPort a r.target.port = candidate := by
  rw [candidates, List.mem_map]
  simp only [(inOrder_perm h).mem_iff]

theorem IsOrdered.isSome_getElem? (h : r.IsOrdered) {i : Nat} (hi : i ∈ r.order) :
    (r.addresses[i]?).isSome := by
  have hlt : i < r.addresses.length := List.mem_range.1 (h.mem_iff.1 hi)
  simp [hlt]

/-- No position is passed over. -/
theorem IsOrdered.candidates_eq (h : r.IsOrdered) :
    ((candidates r.addresses r.order r.target.port).map (r.request.network, ·)).map some
      = r.order.map r.callAt := by
  have hmap := congrArg (List.map (Option.map fun a =>
    (r.request.network, joinHostPort a r.target.port)))
    (map_some_filterMap fun i hi => h.isSome_getElem? hi)
  rw [List.map_map, List.map_map] at hmap
  rw [candidates, inOrder, List.map_map, List.map_map]
  exact hmap

theorem IsOrdered.head?_order (h : r.IsOrdered) (hne : r.addresses ≠ []) :
    ∃ i, r.order.head? = some i := by
  unfold IsOrdered at h
  rcases horder : r.order with _ | ⟨i, rest⟩
  · simp [horder, hne] at h
  · exact ⟨i, rfl⟩

theorem IsOrdered.callAt_head? (h : r.IsOrdered) {i : Nat} (hi : r.order.head? = some i) :
    ∃ candidate ∈ (candidates r.addresses r.order r.target.port).head?,
      r.callAt i = some (r.request.network, candidate) := by
  have hhead := congrArg List.head? h.candidates_eq
  rw [List.head?_map, List.head?_map, List.head?_map, hi] at hhead
  obtain ⟨call, hcall, hcall'⟩ := Option.map_eq_some_iff.1 hhead
  obtain ⟨candidate, hm, rfl⟩ := Option.map_eq_some_iff.1 hcall
  exact ⟨candidate, hm, hcall'.symm⟩

theorem succeeds_or_exhausts {connect : String → String → Except IoError γ}
    (ha : r.AnsweredBy connect) (ho : r.IsOrdered) :
    r.Succeeds ∧ r.Connects connect ∨ r.Exhausts connect ∧ ¬ r.Connects connect := by
  by_cases hne : r.addresses = []
  · obtain ⟨hcalls, hresults⟩ := r.fails_of_nil hne
    have horder : r.order = [] := by
      simpa [IsOrdered, hne] using ho
    refine .inr ⟨⟨by simp [hcalls, horder], _, hresults, by simp [horder]⟩, ?_⟩
    rintro ⟨a, hm, -⟩
    simp [hne] at hm
  rcases (r.failsOver hne).cases_of_answered ha with
    ⟨candidate, hm, connection, hconnect, hresults⟩ | ⟨hall, hcalls, hfirst⟩
  · obtain ⟨a, hmem, rfl⟩ := ho.mem_candidates_iff.1 hm
    exact .inl ⟨⟨connection, hresults⟩, a, hmem, connection, hconnect⟩
  · have hpositions : r.calls.map some = r.order.map r.callAt := by
      rw [hcalls, ho.candidates_eq]
    refine .inr ⟨⟨hpositions, ?_⟩, ?_⟩
    · obtain ⟨i, hi⟩ := ho.head?_order hne
      obtain ⟨candidate, hm, hcall⟩ := ho.callAt_head? hi
      obtain ⟨failure, hfailure, hresults⟩ := hfirst candidate hm
      refine ⟨_, hresults, fun j hj => ⟨(r.request.network, candidate), failure, ?_, hfailure, rfl⟩⟩
      obtain rfl := Option.some.inj (hi.symm.trans hj)
      exact hcall
    · rintro ⟨a, hm, connection, hconnect⟩
      obtain ⟨error, herror⟩ := hall _ (ho.mem_candidates_iff.2 ⟨a, hm, rfl⟩)
      simp [hconnect] at herror

/-- The order in which the addresses of a host are tried, each position once, does not decide
whether a dial succeeds: it does if and only if one of the addresses connects. If none does, each
position is tried once under either order, so the calls are the same but for their order, and the
error that is reported is that of the address which the order puts first. -/
theorem succeeds_in_any_order {r r' : DialRun γ} {connect : String → String → Except IoError γ}
    (haddresses : r'.addresses = r.addresses) (hport : r'.target.port = r.target.port)
    (hnetwork : r'.request.network = r.request.network) (ha : r.AnsweredBy connect)
    (ha' : r'.AnsweredBy connect) (ho : r.IsOrdered) (ho' : r'.IsOrdered) :
    (r.Succeeds ↔ r'.Succeeds) ∧ (r.Succeeds ↔ r.Connects connect)
      ∧ (¬ r.Connects connect →
        r.Exhausts connect ∧ r'.Exhausts connect ∧ r.calls.Perm r'.calls) := by
  have hcallAt : r'.callAt = r.callAt := by
    funext i
    simp only [callAt, haddresses, hport, hnetwork]
  have hconnects : r'.Connects connect ↔ r.Connects connect := by
    simp only [Connects, haddresses, hport, hnetwork]
  have horder : r.order.Perm r'.order := by
    unfold IsOrdered at ho'
    rw [haddresses] at ho'
    exact ho.trans ho'.symm
  have hexcl : ∀ r : DialRun γ, r.Exhausts connect → ¬ r.Succeeds := by
    rintro r ⟨-, error, hresults, -⟩ ⟨connection, h⟩
    simp [h] at hresults
  rcases succeeds_or_exhausts ha ho with ⟨h, hc⟩ | ⟨h, hc⟩
  · rcases succeeds_or_exhausts ha' ho' with ⟨h', hc'⟩ | ⟨h', hc'⟩
    · exact ⟨iff_of_true h h', iff_of_true h hc, fun hnot => absurd hc hnot⟩
    · exact absurd (hconnects.2 hc) hc'
  · rcases succeeds_or_exhausts ha' ho' with ⟨h', hc'⟩ | ⟨h', hc'⟩
    · exact absurd (hconnects.1 hc') hc
    · refine ⟨iff_of_false (hexcl r h) (hexcl r' h'), iff_of_false (hexcl r h) hc, fun _ => ?_⟩
      refine ⟨h, h', (List.map_perm_map_iff (fun _ _ => Option.some.inj)).1 ?_⟩
      rw [h.calls, h'.calls, hcallAt]
      exact horder.map _

/-- A dial that makes two attempts, each of which fails with an error that names its candidate. -/
def failing (addresses : List String) (order : CandidateOrder) (first second : String)
    (h : ((CacheState.fresh .default ⟨0⟩).after (γ := Unit)
      [.start (.dial ⟨"tcp", "db:80", order, .single 0⟩), .answer 0 (some (.ok addresses)) none,
        .outcome 0 (some (.error (noSuchHost first))) none,
        .outcome 0 (some (.error (noSuchHost second))) none]).cancelled = []) : DialRun Unit where
  state := CacheState.fresh .default ⟨0⟩
  request := ⟨"tcp", "db:80", order, .single 0⟩
  target := ⟨"db", 80⟩
  addresses := addresses
  before := [.start (.dial ⟨"tcp", "db:80", order, .single 0⟩)]
  event := .answer 0 (some (.ok addresses)) none
  after := [.outcome 0 (some (.error (noSuchHost first))) none,
    .outcome 0 (some (.error (noSuchHost second))) none]
  reachable := CacheState.reachable_default
  parse := by
    have hchars : Target.ofChars "db:80".toList = .ok ⟨"db", 80⟩ := by decide +kernel
    rw [Target.parse, hchars]
  begins := rfl
  lookup := by
    have hchars : Target.ofChars "db:80".toList = .ok ⟨"db", 80⟩ := by decide +kernel
    simp only [CacheState.after, CacheState.step, CacheState.start, Target.parse, hchars]
    rfl
  token := by simp [h]
  kept := by simp

/-- Under the listed and under the reverse order both addresses are tried and both dials fail. -/
theorem exhausts_listed_and_reverse :
    let connect : String → String → Except IoError Unit := fun _ c => .error (noSuchHost c)
    let addresses := ["10.0.0.1", "10.0.0.2"]
    let r := failing addresses listedOrder "10.0.0.1:80" "10.0.0.2:80" (by decide +kernel)
    let r' := failing addresses reverseOrder "10.0.0.2:80" "10.0.0.1:80" (by decide +kernel)
    r.Exhausts connect ∧ r'.Exhausts connect ∧ r.calls ≠ r'.calls ∧ r.calls.Perm r'.calls := by
  intro connect addresses r r'
  have hcalls : r.calls = [("tcp", "10.0.0.1:80"), ("tcp", "10.0.0.2:80")] := by decide +kernel
  have hcalls' : r'.calls = [("tcp", "10.0.0.2:80"), ("tcp", "10.0.0.1:80")] := by decide +kernel
  have ha : r.AnsweredBy connect := by
    rw [AnsweredBy, hcalls]
    rfl
  have ha' : r'.AnsweredBy connect := by
    rw [AnsweredBy, hcalls']
    rfl
  have ho : r.IsOrdered := List.Perm.refl _
  have ho' : r'.IsOrdered := List.reverse_perm _
  have haddresses : r'.addresses = r.addresses := rfl
  have hport : r'.target.port = r.target.port := rfl
  have hnetwork : r'.request.network = r.request.network := rfl
  obtain ⟨-, -, hfail⟩ := succeeds_in_any_order haddresses hport hnetwork ha ha' ho ho'
  obtain ⟨h, h', hperm⟩ := hfail (by rintro ⟨a, -, connection, hconnect⟩; cases hconnect)
  exact ⟨h, h', by rw [hcalls, hcalls']; decide, hperm⟩

end DialRun

end HostDialing

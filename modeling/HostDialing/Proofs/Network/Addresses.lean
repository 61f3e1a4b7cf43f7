import HostDialing.Network.Resolvers
import HostDialing.Proofs.Dial.Sockets
import HostDialing.Proofs.Ip.Text

/-!
# Addresses through their texts

A cache keeps addresses as texts. What a built-in resolver finds goes through that form without
loss: the texts are all different and read back as the addresses, each where it first came. So a
request for the sockets of a host has no address to skip, and yields each of them once
(`addresses_come_back`).
-/

namespace HostDialing

variable {γ : Type}

section firsts

variable {α : Type} [DecidableEq α]

/-- The entries of a list that are not among those before them. -/
def firsts (l : List α) : List α :=
  (List.range l.length).filterMap fun i => l[i]?.filter (· ∉ l.take i)

theorem firsts_concat (l : List α) (a : α) :
    firsts (l ++ [a]) = firsts l ++ if a ∈ l then [] else [a] := by
  have hbefore : ∀ i ∈ List.range l.length,
      ((l ++ [a])[i]?.filter (· ∉ (l ++ [a]).take i)) = l[i]?.filter (· ∉ l.take i) := by
    intro i hi
    have hlt := List.mem_range.1 hi
    rw [List.getElem?_append_left hlt, List.take_append_of_le_length hlt.le]
  rw [firsts, List.length_append, List.length_singleton, List.range_succ, List.filterMap_append,
    List.filterMap_congr hbefore, ← firsts]
  have hlast : (l ++ [a])[l.length]?.filter (· ∉ (l ++ [a]).take l.length)
      = if a ∈ l then none else some a := by
    by_cases ha : a ∈ l <;> simp [ha]
  by_cases ha : a ∈ l <;> simp only [List.filterMap_cons, List.filterMap_nil, hlast, ha, if_true,
    if_false]

theorem eraseDups_concat (l : List α) (a : α) :
    (l ++ [a]).eraseDups = l.eraseDups ++ if a ∈ l then [] else [a] := by
  rw [List.eraseDups_append]
  by_cases ha : a ∈ l <;> simp [List.removeAll, List.eraseDups_cons, ha]

theorem eraseDups_eq_firsts (l : List α) : l.eraseDups = firsts l := by
  induction l using List.reverseRecOn with
  | nil => rfl
  | append_singleton l a ih => rw [eraseDups_concat, firsts_concat, ih]

theorem mem_firsts {l : List α} {a : α} : a ∈ firsts l ↔ a ∈ l := by
  rw [← eraseDups_eq_firsts, List.mem_eraseDups]

theorem nodup_firsts (l : List α) : (firsts l).Nodup := by
  induction l using List.reverseRecOn with
  | nil => exact List.nodup_nil
  | append_singleton l a ih =>
    rw [firsts_concat]
    split_ifs with ha
    · rwa [List.append_nil]
    · exact ih.append (List.nodup_singleton a) (by simpa [mem_firsts] using ha)

end firsts

theorem addressTexts_eq (ips : List IpAddress) :
    addressTexts ips = (firsts ips).map IpAddress.text := by
  rw [addressTexts, eraseDups_eq_firsts]

theorem BuiltInResolver.answer_eq_ok_iff {link : Link} {host : String} {resolver : BuiltInResolver}
    {addresses : List String} : resolver.answer link host = .ok addresses
      ↔ ∃ ips, resolver.find link host = .ok ips ∧ addresses = addressTexts ips := by
  rw [answer]
  rcases resolver.find link host with error | ips
  · exact iff_of_false (fun h => by cases h) fun ⟨ips, h, _⟩ => by cases h
  · constructor
    · exact fun h => ⟨ips, rfl, (Except.ok.inj h).symm⟩
    · rintro ⟨ips', h, rfl⟩
      rw [Except.ok.inj h]
      rfl

theorem socketsAt_addressTexts (ips : List IpAddress) (positions : List Nat) :
    socketsAt (addressTexts ips) positions
      = positions.filterMap fun i => (firsts ips)[i]?.map fun ip => ⟨ip, 0, 0⟩ := by
  rw [socketsAt, inOrder, List.filterMap_filterMap, addressTexts_eq]
  refine List.filterMap_congr fun i _ => ?_
  rw [List.getElem?_map]
  rcases (firsts ips)[i]? with _ | ip
  · rfl
  · simp [IpAddress.parse?_text]

/-- A lookup never comes to no addresses. -/
theorem SocketsRun.addresses_ne_nil (r : SocketsRun γ) {addresses : List String}
    (h : r.found = .ok addresses) : addresses ≠ [] := by
  have hlookup := r.lookup
  rw [h] at hlookup
  have hleft : r.left.Reachable γ := (r.reachable.after r.before).after [r.event]
  exact (Entries.known?_eq_some.1 (hleft.known_of_entry (CacheState.entry_of_lookedUp hlookup))).2

/-- What a resolver gives for a list of IP addresses is a list of different texts, each canonical,
which read back as the addresses in the order in which each first came; and built-in resolvers,
whatever name server is asked, give that of the addresses they find. If a lookup comes to such a
list, a request for sockets in an order that has each position once yields all of the addresses,
none of them twice, in that order. -/
theorem addresses_come_back :
    (∀ ip cs, CanonicalText ip cs ↔ cs = ip.text.toList)
    ∧ (∀ link host (resolver : BuiltInResolver) addresses,
        resolver.answer link host = .ok addresses
          ↔ ∃ ips, resolver.find link host = .ok ips ∧ addresses = addressTexts ips)
    ∧ ∀ ips : List IpAddress,
      (addressTexts ips).Nodup
      ∧ (addressTexts ips).map IpAddress.parse? = (firsts ips).map some
      ∧ ∀ r : SocketsRun γ, r.found = .ok (addressTexts ips) →
        let positions := r.order (addressTexts ips).length
        positions.Perm (List.range (addressTexts ips).length) →
          ∃ sockets : List SocketAddress, r.results = [.sockets (.ok sockets)]
            ∧ sockets.map some
              = positions.map (fun i => (firsts ips)[i]?.map fun ip => ⟨ip, 0, 0⟩)
            ∧ (sockets.map (·.ip)).Nodup
            ∧ ∀ ip, ip ∈ sockets.map (·.ip) ↔ ip ∈ ips := by
  refine ⟨fun ip cs => ?_, fun link host resolver addresses => BuiltInResolver.answer_eq_ok_iff,
    fun ips => ⟨?_, ?_, ?_⟩⟩
  · rw [canonicalText_iff, IpAddress.text, String.toList_ofList]
  · rw [addressTexts_eq]
    exact (nodup_firsts ips).map IpAddress.text_injective
  · rw [addressTexts_eq, List.map_map]
    exact List.map_congr_left fun ip _ => IpAddress.parse?_text ip
  intro r hfound positions hperm
  have hlength : (addressTexts ips).length = (firsts ips).length := by
    rw [addressTexts_eq, List.length_map]
  have hips : ((socketsAt (addressTexts ips) positions).map (·.ip)).Perm (firsts ips) := by
    rw [socketsAt_addressTexts, List.map_filterMap]
    simp only [Option.map_map]
    rw [hlength] at hperm
    simpa [Function.comp_def, filterMap_getElem?_range] using
      hperm.filterMap fun i => (firsts ips)[i]?
  have hne : socketsAt (addressTexts ips) positions ≠ [] := by
    intro hnil
    rw [hnil] at hips
    have hfirsts : firsts ips = [] := List.perm_nil.1 hips.symm
    exact r.addresses_ne_nil hfound (by rw [addressTexts_eq, hfirsts, List.map_nil])
  refine ⟨_, ?_, ?_, hips.nodup_iff.2 (nodup_firsts ips), fun ip => ?_⟩
  · rw [r.results_eq, hfound]
    simp only [positions] at hne
    simp only [usableSockets_of_ne_nil hne]
    rfl
  · rw [socketsAt_addressTexts]
    refine map_some_filterMap fun i hi => ?_
    have hlt := List.mem_range.1 (hperm.mem_iff.1 hi)
    rw [hlength] at hlt
    rw [Option.isSome_map, List.getElem?_eq_getElem hlt]
    rfl
  · rw [hips.mem_iff, mem_firsts]

/-- An address twice, its image in the second family, and one with two runs of zeros. -/
def mixedIps : List IpAddress :=
  [.v4 10 0 0 1, .v6 [0, 0, 0, 0, 0, 0xffff, 0xa00, 1] rfl, .v4 10 0 0 1,
    .v6 [1, 0, 0, 2, 0, 0, 0, 3] rfl]

theorem addressTexts_mixedIps :
    addressTexts mixedIps = ["10.0.0.1", "::ffff:10.0.0.1", "1:0:0:2::3"] := by
  decide +kernel

/-- A request for the sockets of a host that has them, from the last to the first. -/
def SocketsRun.mixed : SocketsRun Unit where
  state := CacheState.fresh .default ⟨0⟩
  host := "db"
  order := reverseOrder
  found := .ok ["10.0.0.1", "::ffff:10.0.0.1", "1:0:0:2::3"]
  before := [.start (.sockets "db" reverseOrder)]
  event := .answer 0 (some (.ok ["10.0.0.1", "::ffff:10.0.0.1", "1:0:0:2::3"])) none
  after := []
  reachable := CacheState.reachable_default
  begins := rfl
  lookup := rfl
  kept := by simp

theorem mixed_addresses_come_back :
    SocketsRun.mixed.found = .ok (addressTexts mixedIps)
    ∧ (reverseOrder 3).Perm (List.range 3)
    ∧ SocketsRun.mixed.results = [.sockets (.ok [⟨.v6 [1, 0, 0, 2, 0, 0, 0, 3] rfl, 0, 0⟩,
      ⟨.v6 [0, 0, 0, 0, 0, 0xffff, 0xa00, 1] rfl, 0, 0⟩, ⟨.v4 10 0 0 1, 0, 0⟩])] := by
  have hfound : SocketsRun.mixed.found = .ok (addressTexts mixedIps) := by
    rw [addressTexts_mixedIps]
    rfl
  have hperm : (reverseOrder 3).Perm (List.range 3) := List.reverse_perm _
  have hlength : (addressTexts mixedIps).length = 3 := by rw [addressTexts_mixedIps]; rfl
  obtain ⟨-, -, hback⟩ := addresses_come_back (γ := Unit)
  obtain ⟨-, -, hsockets⟩ := hback mixedIps
  obtain ⟨sockets, hresults, hmap, -⟩ := hsockets SocketsRun.mixed hfound
    (by rw [hlength]; exact hperm)
  refine ⟨hfound, hperm, ?_⟩
  rw [hlength] at hmap
  have hlist : sockets.map some = List.map some [⟨.v6 [1, 0, 0, 2, 0, 0, 0, 3] rfl, 0, 0⟩,
      ⟨.v6 [0, 0, 0, 0, 0, 0xffff, 0xa00, 1] rfl, 0, 0⟩, ⟨.v4 10 0 0 1, 0, 0⟩] :=
    hmap.trans (by decide +kernel)
  rw [hresults, List.map_injective_iff.2 (Option.some_injective _) hlist]

end HostDialing

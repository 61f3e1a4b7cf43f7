import HostDialing.Network.Tcp
import HostDialing.Proofs.Dial.RoundTrip
import HostDialing.Proofs.Network.Addresses

/-!
# Families of addresses

A candidate made of the text of an IP address is read as that address by everything on its way: as a
socket by the connector, as a target by another dial. A network may ask for one family. Then the
connector refuses a candidate of the other before it turns to the link
(`Endpoint.of_joinHostPort`), so a dial over such a list connects to nothing but an address of the
list that its network takes (`addresses_of_their_family`).
-/

namespace HostDialing

theorem mem_groupsText {groups : List UInt16} {c : Char} (h : c ∈ groupsText groups) :
    c = ':' ∨ (hexDigit? c).isSome := by
  rcases mem_joined h with rfl | ⟨f, hf, hc⟩
  · exact .inl rfl
  · obtain ⟨g, -, rfl⟩ := List.mem_map.1 hf
    exact .inr (isSome_hexDigit?_of_hexDigits? (by simp [hexDigits?_hexadecimal]) hc)

theorem isSome_hexDigit?_of_isDigit {c : Char} (h : c.isDigit) : (hexDigit? c).isSome := by
  simp [hexDigit?, h]

theorem CanonicalText.mem {ip : IpAddress} {cs : List Char} (h : CanonicalText ip cs) {c : Char}
    (hc : c ∈ cs) : c = ':' ∨ c = '.' ∨ (hexDigit? c).isSome := by
  have hgroups : ∀ {groups : List UInt16}, c ∈ groupsText groups →
      c = ':' ∨ c = '.' ∨ (hexDigit? c).isSome := fun hm => (mem_groupsText hm).imp_right .inr
  have hoctets : ∀ {p q r s : UInt8}, c ∈ octetsText p q r s →
      c = ':' ∨ c = '.' ∨ (hexDigit? c).isSome := fun hm =>
    .inr ((mem_octetsText hm).imp_right isSome_hexDigit?_of_isDigit)
  cases h with
  | octets a b c d => exact hoctets hc
  | mapped g h hlength =>
    rcases List.mem_append.1 hc with hc | hc
    · have hall : "::ffff:".toList.all fun c => c == ':' || (hexDigit? c).isSome := by decide
      have hcolon := List.all_eq_true.1 hall c hc
      rw [Bool.or_eq_true, beq_iff_eq] at hcolon
      exact hcolon.imp_right .inr
    · exact hoctets hc
  | gap hlength _ run long =>
    rcases List.mem_append.1 hc with hc | hc
    · exact hgroups hc
    · rcases List.mem_cons.1 hc with rfl | hc
      · exact .inl rfl
      · rcases List.mem_cons.1 hc with rfl | hc
        · exact .inl rfl
        · exact hgroups hc
  | full hlength => exact hgroups hc

/-- Neither a bracket nor the sign before a zone is part of an address. -/
theorem IpAddress.notMem_chars (ip : IpAddress) {c : Char} (h : c ≠ ':' ∧ c ≠ '.')
    (hhex : hexDigit? c = none) : c ∉ ip.chars := fun hc => by
  simpa [h, hhex] using ip.canonicalText.mem hc

theorem CanonicalText.colon_mem_iff {ip : IpAddress} {cs : List Char} (h : CanonicalText ip cs) :
    ':' ∈ cs ↔ ip.isV6 := by
  cases h with
  | octets a b c d => simp [colon_notMem_octetsText, IpAddress.isV6, IpAddress.isV4]
  | mapped g h hlength =>
    refine iff_of_true (List.mem_append_left _ (by decide)) rfl
  | gap hlength _ run long => exact iff_of_true (by simp) rfl
  | @full groups hlength =>
    obtain ⟨g, gs, rfl⟩ := List.exists_cons_of_ne_nil (List.ne_nil_of_length_eq_add_one hlength)
    have hgs : gs ≠ [] := by
      rintro rfl
      cases hlength
    exact iff_of_true (by simp [groupsText_cons g hgs]) rfl

theorem v6?_chars {ip : IpAddress} (h : ip.isV6) : v6? ip.chars = some ip := by
  have hread := ip.canonicalText.ofChars?
  rwa [IpAddress.ofChars?, octets?_of_colon (ip.canonicalText.colon_mem_iff.2 h)] at hread

theorem below?_decimal (port : UInt16) :
    below? UInt16.size (decimal port.toNat) = some port.toNat := by
  rw [below?, digits?_decimal, Option.filter_some, if_pos (by simpa using port.toNat_lt)]

/-- The socket of a candidate made of an address. -/
theorem SocketAddress.parse?_joinHostPort (ip : IpAddress) (port : UInt16) :
    SocketAddress.parse? (joinHostPort ip.text port) = some ⟨ip, port, 0⟩ := by
  have htext : ip.text.toList = ip.chars := String.toList_ofList
  by_cases hv6 : ip.isV6
  · have hbracket : ']' ∉ ip.chars := ip.notMem_chars (by decide) rfl
    have hzone : '%' ∉ ip.chars := ip.notMem_chars (by decide) rfl
    have hcolon : ':' ∈ ip.text.toList := htext ▸ ip.canonicalText.colon_mem_iff.2 hv6
    rw [parse?, joinHostPort_of_colon hcolon, htext, ofChars?, ofBracketed?,
      span_ne_append hbracket]
    simp only [span_ne_of_not_mem hzone, v6?_chars hv6, below?_decimal, zone?,
      Option.bind_eq_bind, Option.bind_some, UInt16.ofNat_toNat]
    rfl
  · obtain ⟨a, b, c, d, rfl⟩ : ∃ a b c d, ip = .v4 a b c d := by
      rcases ip with ⟨a, b, c, d⟩ | ⟨groups, hlength⟩
      · exact ⟨a, b, c, d, rfl⟩
      · exact absurd rfl hv6
    have hchars : (IpAddress.v4 a b c d).chars = octetsText a b c d := rfl
    have hcolon := colon_notMem_octetsText a b c d
    have hopen : '[' ∉ (IpAddress.v4 a b c d).chars ++ ':' :: decimal port.toNat := by
      have hdigits : '[' ∉ decimal port.toNat := fun hm =>
        absurd (isDigit_of_mem_decimal hm) (by decide)
      simp [IpAddress.notMem_chars _ (by decide) (rfl : hexDigit? '[' = none), hdigits]
    rw [parse?, joinHostPort_of_noColon (htext ▸ hcolon), htext, ofChars?]
    · rw [hchars, span_ne_append hcolon]
      simp only [octets?_octetsText, below?_decimal, Option.bind_eq_bind, Option.bind_some,
        UInt16.ofNat_toNat]
      rfl
    · rintro cs heq
      exact absurd List.mem_cons_self (heq ▸ hopen)

/-- The target of a candidate made of an address. -/
theorem Target.parse_joinHostPort_text (ip : IpAddress) (port : UInt16) :
    Target.parse (joinHostPort ip.text port) = .ok ⟨ip.text, port⟩ := by
  have htext : ip.text.toList = ip.chars := String.toList_ofList
  have hopen : ip.chars.head? ≠ some '[' := fun h =>
    ip.notMem_chars (by decide) rfl (List.mem_of_head? h)
  rw [parse_joinHostPort_iff, htext]
  by_cases hcolon : ':' ∈ ip.chars
  · exact .inl ⟨hcolon, ip.notMem_chars (by decide) rfl⟩
  · exact .inr ⟨hcolon, hopen⟩

/-- The networks over which a connection to an address may be opened. -/
def TakesFamily (network : String) (ip : IpAddress) : Prop :=
  network = "tcp" ∨ network = "tcp4" ∧ ip.isV4 ∨ network = "tcp6" ∧ ip.isV6

theorem isTcpNetwork_iff {network : String} :
    isTcpNetwork network ↔ network ∈ ["tcp", "tcp4", "tcp6"] := by
  simp [isTcpNetwork, or_assoc]

theorem takesFamily_iff {network : String} {ip : IpAddress} :
    TakesFamily network ip ↔ isTcpNetwork network ∧ isOfNetwork network ip := by
  by_cases h : network = "tcp" <;> by_cases h4 : network = "tcp4" <;>
    by_cases h6 : network = "tcp6" <;> simp_all [TakesFamily, isTcpNetwork, isOfNetwork]

/-- Where a connection to a candidate made of an address goes: to its socket, or nowhere. -/
theorem Endpoint.of_joinHostPort (network : String) (ip : IpAddress) (port : UInt16) :
    (TakesFamily network ip
      ∧ Endpoint.of network (joinHostPort ip.text port) = .ok (.socket ⟨ip, port, 0⟩))
    ∨ (network ∉ ["tcp", "tcp4", "tcp6"] ∧ ¬ TakesFamily network ip
      ∧ Endpoint.of network (joinHostPort ip.text port) = .error (unsupportedNetwork network))
    ∨ (network ∈ ["tcp", "tcp4", "tcp6"] ∧ ¬ TakesFamily network ip
      ∧ Endpoint.of network (joinHostPort ip.text port)
        = .error (familyMismatch network (joinHostPort ip.text port))) := by
  rw [Endpoint.of, SocketAddress.parse?_joinHostPort, takesFamily_iff, ← isTcpNetwork_iff]
  by_cases hnetwork : isTcpNetwork network <;> by_cases hfamily : isOfNetwork network ip <;>
    simp [hnetwork, hfamily]

/-- A connector that is refused an endpoint leaves the link alone. -/
theorem tcpConnect_of_error {network addr : String} {e : IoError}
    (h : Endpoint.of network addr = .error e) (link : Link) (nodelay : Bool) :
    tcpConnect link nodelay network addr = .error e := by
  rw [tcpConnect, h]
  rfl

theorem tcpConnect_of_socket {network addr : String} {s : SocketAddress}
    (h : Endpoint.of network addr = .ok (.socket s)) (link : Link) (nodelay : Bool) :
    tcpConnect link nodelay network addr = (link.connect s).map fun _ => ⟨s, nodelay⟩ := by
  rw [tcpConnect, h]
  show ((link.connect s).map fun _ => s) >>= _ = _
  cases link.connect s <;> rfl

theorem text_of_mem_addressTexts {ips : List IpAddress} {a : String} (h : a ∈ addressTexts ips) :
    ∃ ip ∈ ips, a = ip.text := by
  rw [addressTexts_eq] at h
  obtain ⟨ip, hip, rfl⟩ := List.mem_map.1 h
  exact ⟨ip, mem_firsts.1 hip, rfl⟩

/-- A connection to a candidate made of an address is one to that address, over a network that takes
it. -/
theorem takesFamily_of_tcpConnect {link : Link} {nodelay : Bool} {network : String}
    {ip : IpAddress} {port : UInt16} {connection : TcpConnection}
    (h : tcpConnect link nodelay network (joinHostPort ip.text port) = .ok connection) :
    TakesFamily network ip ∧ connection = ⟨⟨ip, port, 0⟩, nodelay⟩
      ∧ link.connect ⟨ip, port, 0⟩ = .ok () := by
  rcases Endpoint.of_joinHostPort network ip port with ⟨htakes, hof⟩ | ⟨-, -, hof⟩ | ⟨-, -, hof⟩
  · rw [tcpConnect_of_socket hof] at h
    rcases hlink : link.connect ⟨ip, port, 0⟩ with e | _ <;> rw [hlink] at h <;> cases h
    exact ⟨htakes, rfl, rfl⟩
  · rw [tcpConnect_of_error hof] at h
    cases h
  · rw [tcpConnect_of_error hof] at h
    cases h

/-- The outcomes are what the connector gives for the calls, each over the link of its time. -/
def DialRun.AnsweredOver (r : DialRun TcpConnection) (link : Nat → Link) (nodelay : Bool) : Prop :=
  ∀ i call outcome, r.calls[i]? = some call →
    (outcomesOf r.state.nextTask r.after)[i]? = some outcome →
      outcome = tcpConnect (link i) nodelay call.1 call.2

/-- A dial over texts of IP addresses that connects has connected to one of the addresses. -/
theorem DialRun.address_of_connection {r : DialRun TcpConnection} {link : Nat → Link}
    {nodelay : Bool} {ips : List IpAddress} (haddresses : r.addresses ⊆ addressTexts ips)
    (ha : r.AnsweredOver link nodelay) {connection : TcpConnection}
    (h : .dialed (.ok connection) ∈ r.results) :
    ∃ ip ∈ ips, TakesFamily r.request.network ip
      ∧ connection = ⟨⟨ip, r.target.port, 0⟩, nodelay⟩
      ∧ ∃ i, (link i).connect ⟨ip, r.target.port, 0⟩ = .ok () := by
  by_cases hne : r.addresses = []
  · simp [(r.fails_of_nil hne).2] at h
  obtain ⟨i, candidate, hcandidate, hcall, houtcome⟩ := (r.failsOver hne).connected h
  have hconnect := (ha i _ _ hcall houtcome).symm
  obtain ⟨a, hmem, rfl⟩ := List.mem_map.1 (List.mem_of_getElem? hcandidate)
  obtain ⟨position, -, hposition⟩ := List.mem_filterMap.1 hmem
  obtain ⟨ip, hip, rfl⟩ := text_of_mem_addressTexts (haddresses (List.mem_of_getElem? hposition))
  obtain ⟨htakes, hconnection, hlink⟩ := takesFamily_of_tcpConnect hconnect
  exact ⟨ip, hip, htakes, hconnection, i, hlink⟩

/-- A candidate made of an IP address is read as that socket and as that target. It is connected to
over the networks that take the family of the address; over any other network it is refused,
whatever the link. So a dial over texts of IP addresses, in whatever order it tries them and
whatever becomes of the link in the meantime, connects to nothing but one of the addresses that the
network takes. -/
theorem addresses_of_their_family :
    (∀ (ip : IpAddress) (port : UInt16) (network : String),
      let candidate := joinHostPort ip.text port
      let s : SocketAddress := ⟨ip, port, 0⟩
      SocketAddress.parse? candidate = some s
      ∧ Target.parse candidate = .ok ⟨ip.text, port⟩
      ∧ (Endpoint.of network candidate = .ok (.socket s) ↔ TakesFamily network ip)
      ∧ (network ∉ ["tcp", "tcp4", "tcp6"] → Endpoint.of network candidate
        = .error (.reported .invalidInput ("unsupported network " ++ quoted network)))
      ∧ (network ∈ ["tcp", "tcp4", "tcp6"] → ¬ TakesFamily network ip →
        Endpoint.of network candidate = .error (.reported .invalidInput
          ("address " ++ candidate ++ " does not match network " ++ network)))
      ∧ ∀ link nodelay, tcpConnect link nodelay network candidate
        = match Endpoint.of network candidate with
          | .ok _ => (link.connect s).map fun _ => ⟨s, nodelay⟩
          | .error e => .error e)
    ∧ ∀ (link : Nat → Link) (nodelay : Bool) (r : DialRun TcpConnection) (ips : List IpAddress),
      r.addresses ⊆ addressTexts ips → r.AnsweredOver link nodelay →
        ∀ connection, .dialed (.ok connection) ∈ r.results →
          ∃ ip ∈ ips, connection = ⟨⟨ip, r.target.port, 0⟩, nodelay⟩
            ∧ (∃ i, (link i).connect connection.peer = .ok ())
            ∧ (r.request.network = "tcp4" → ip.isV4) ∧ (r.request.network = "tcp6" → ip.isV6) := by
  refine ⟨fun ip port network => ?_, fun link nodelay r ips haddresses ha connection hm => ?_⟩
  · refine ⟨SocketAddress.parse?_joinHostPort ip port, Target.parse_joinHostPort_text ip port, ?_⟩
    rcases Endpoint.of_joinHostPort network ip port with ⟨htakes, hof⟩ | ⟨hnot, hrefused, hof⟩
      | ⟨htcp, hrefused, hof⟩
    · have htcp : network ∈ ["tcp", "tcp4", "tcp6"] :=
        isTcpNetwork_iff.1 (takesFamily_iff.1 htakes).1
      refine ⟨iff_of_true hof htakes, fun hnot => absurd htcp hnot, fun _ h => absurd htakes h,
        fun link nodelay => ?_⟩
      rw [hof]
      exact tcpConnect_of_socket hof link nodelay
    · refine ⟨iff_of_false (by simp [hof]) hrefused, fun _ => hof, fun htcp => absurd htcp hnot,
        fun link nodelay => ?_⟩
      rw [hof]
      exact tcpConnect_of_error hof link nodelay
    · refine ⟨iff_of_false (by simp [hof]) hrefused, fun hnot => absurd htcp hnot, fun _ _ => hof,
        fun link nodelay => ?_⟩
      rw [hof]
      exact tcpConnect_of_error hof link nodelay
  · obtain ⟨ip, hip, htakes, rfl, hlink⟩ := DialRun.address_of_connection haddresses ha hm
    refine ⟨ip, hip, rfl, hlink, fun h => ?_, fun h => ?_⟩ <;> simpa [TakesFamily, h] using htakes

/-- The addresses of the machine itself. -/
def loopbackAddresses : List IpAddress := [.v6 [0, 0, 0, 0, 0, 0, 0, 1] rfl, .v4 127 0 0 1]

/-- The run of a dial over `tcp4` to these addresses, with the connector's answer to each. -/
def loopbackEvents : List (CacheEvent TcpConnection) :=
  [.start (.dial ⟨"tcp4", "localhost:80", listedOrder, .single 0⟩),
    .answer 0 (some (.ok (addressTexts loopbackAddresses))) none,
    .outcome 0 (some (.error (familyMismatch "tcp4" "[::1]:80"))) none,
    .outcome 0 (some (.ok ⟨⟨.v4 127 0 0 1, 80, 0⟩, true⟩)) none]

def DialRun.ofLoopback : DialRun TcpConnection where
  state := CacheState.fresh .default ⟨0⟩
  request := ⟨"tcp4", "localhost:80", listedOrder, .single 0⟩
  target := ⟨"localhost", 80⟩
  addresses := addressTexts loopbackAddresses
  before := loopbackEvents.take 1
  event := .answer 0 (some (.ok (addressTexts loopbackAddresses))) none
  after := loopbackEvents.drop 2
  reachable := CacheState.reachable_default
  parse := by
    have hchars : Target.ofChars "localhost:80".toList = .ok ⟨"localhost", 80⟩ := by decide +kernel
    rw [Target.parse, hchars]
  begins := rfl
  lookup := by
    have hchars : Target.ofChars "localhost:80".toList = .ok ⟨"localhost", 80⟩ := by decide +kernel
    simp only [loopbackEvents, List.take, CacheState.after, CacheState.step, CacheState.start,
      Target.parse, hchars]
    rfl
  token := by
    have h : ((CacheState.fresh .default ⟨0⟩).after loopbackEvents).cancelled = [] := by
      decide +kernel
    exact h ▸ List.not_mem_nil
  kept := by simp [loopbackEvents]

/-- The link at each attempt: the machine is listened on from the second on. -/
def laterLoopback (i : Nat) : Link := if i = 0 then .down else .loopback [80]

/-- The address of the other family is refused, so the connection goes to the second one. -/
theorem connects_to_second_loopback :
    let r := DialRun.ofLoopback
    let connection : TcpConnection := ⟨⟨.v4 127 0 0 1, 80, 0⟩, true⟩
    r.AnsweredOver laterLoopback true ∧ .dialed (.ok connection) ∈ r.results
      ∧ ∃ ip ∈ loopbackAddresses, connection = ⟨⟨ip, 80, 0⟩, true⟩
        ∧ (∃ i, (laterLoopback i).connect connection.peer = .ok ()) ∧ ip.isV4 := by
  intro r connection
  have hcalls : r.calls = [("tcp4", "[::1]:80"), ("tcp4", "127.0.0.1:80")] := by decide +kernel
  have hanswered : r.AnsweredOver laterLoopback true := by
    intro i call outcome hcall houtcome
    rw [hcalls] at hcall
    rcases i with _ | _ | i
    · obtain rfl := Option.some.inj hcall
      exact (Option.some.inj houtcome).symm
    · obtain rfl := Option.some.inj hcall
      exact (Option.some.inj houtcome).symm
    · cases hcall
  have hmem : .dialed (.ok connection) ∈ r.results := by
    have hresults : r.results = [.dialed (.ok connection)] := rfl
    simp [hresults]
  obtain ⟨ip, hip, heq, hlink, hv4, -⟩ := addresses_of_their_family.2 laterLoopback true r
    loopbackAddresses (List.Subset.refl _) hanswered connection hmem
  exact ⟨hanswered, hmem, ip, hip, heq, hlink, hv4 rfl⟩

end HostDialing

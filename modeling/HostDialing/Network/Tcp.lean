import HostDialing.Cache.Direct
import HostDialing.Network.Link
import HostDialing.Text.Quoted

/-!
# TCP connections

The connector for the networks `tcp`, `tcp4` and `tcp6`. An address that is an IP literal with a
port must be of the family that the network names; any other host is left to the system.
-/

namespace HostDialing

/-- Where a connection goes: to a socket, or to a host at a port. -/
inductive Endpoint where
  | socket (s : SocketAddress)
  | named (host : String) (port : UInt16)
deriving DecidableEq

def isTcpNetwork (network : String) : Bool :=
  network == "tcp" || network == "tcp4" || network == "tcp6"

/-- The address is of a family that the network takes. -/
def isOfNetwork (network : String) (ip : IpAddress) : Bool :=
  (network != "tcp4" || ip.isV4) && (network != "tcp6" || ip.isV6)

def unsupportedNetwork (network : String) : IoError :=
  .reported .invalidInput ("unsupported network " ++ quoted network)

def familyMismatch (network addr : String) : IoError :=
  .reported .invalidInput ("address " ++ addr ++ " does not match network " ++ network)

/-- An address that is no socket address, as a host and a port. -/
def Endpoint.ofName (addr : String) : Except IoError Endpoint :=
  match splitLast ':' addr.toList with
  | none => .error (.system .invalidInput "invalid socket address")
  | some (host, port) =>
    match port? port with
    | none => .error (.system .invalidInput "invalid port value")
    | some port => .ok (.named (String.ofList host) port)

/-- Where a connection over a network to an address goes, if it may be opened. -/
def Endpoint.of (network addr : String) : Except IoError Endpoint :=
  if !isTcpNetwork network then .error (unsupportedNetwork network)
  else match SocketAddress.parse? addr with
    | some s =>
      if isOfNetwork network s.ip then .ok (.socket s) else .error (familyMismatch network addr)
    | none => Endpoint.ofName addr

structure TcpConnection where
  peer : SocketAddress
  nodelay : Bool
deriving DecidableEq

def Endpoint.connect (link : Link) : Endpoint → Except IoError SocketAddress
  | socket s => (link.connect s).map fun _ => s
  | named host port => do
    link.connectFirst (.system .invalidInput "could not resolve to any address")
      (← link.find host port)

/-- Connects over a network to an address. -/
def tcpConnect (link : Link) (nodelay : Bool) (network addr : String) :
    Except IoError TcpConnection := do
  let peer ← (← Endpoint.of network addr).connect link
  return ⟨peer, nodelay⟩

/-- The connector that has no state of its own. -/
def tcpConnector {σ : Type} (link : Link) (nodelay : Bool) : Connector σ TcpConnection :=
  fun network addr world => (tcpConnect link nodelay network addr, world)

/-- Dials over plain TCP. -/
def dialTcpNow {σ : Type} (link : Link) (nodelay : Bool) (resolve : Resolver σ) (limit : Duration)
    (order : CandidateOrder) (addr : String) (s : Surroundings σ) :
    Except DialError TcpConnection × Surroundings σ :=
  dialNow resolve (tcpConnector link nodelay) limit order "tcp" addr s

end HostDialing

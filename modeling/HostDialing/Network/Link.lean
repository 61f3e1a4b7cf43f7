import HostDialing.Error
import HostDialing.Ip.Numeric

/-!
# Links to a network

What the system says to a program that wants a connection or the addresses of a host. Numeric hosts
are read on the spot, names are asked for.
-/

namespace HostDialing

structure Link where
  connect : SocketAddress → Except IoError Unit
  addressesOf : String → Except IoError (List IpAddress)
  /-- The names and numbers of the interfaces. -/
  interfaces : List (String × UInt32)

def nameUnknown : IoError :=
  .reported .uncategorized "failed to lookup address information: Name or service not known"

/-- A link that leads nowhere: no address can be reached, no name is known. -/
def Link.down : Link where
  connect := fun _ => .error (.system .networkUnreachable "Network is unreachable (os error 101)")
  addressesOf := fun _ => .error nameUnknown
  interfaces := [("lo", 1)]

/-- A link to the machine itself, where some ports of 127.0.0.1 are listened on. -/
def Link.loopback (listening : List UInt16) : Link where
  connect := fun s =>
    if s.ip = .v4 127 0 0 1 ∧ s.port ∈ listening then .ok ()
    else .error (.system .connectionRefused "Connection refused (os error 111)")
  addressesOf := fun _ => .error nameUnknown
  interfaces := [("lo", 1)]

/-- The sockets of a host at a port. No host holds a NUL. -/
def Link.find (link : Link) (host : String) (port : UInt16) :
    Except IoError (List SocketAddress) :=
  if '\x00' ∈ host.toList then
    .error (.system .invalidInput "file name contained an unexpected NUL byte")
  else match numericHost? link.interfaces host.toList with
    | some (ip, zone) => .ok [⟨ip, port, zone⟩]
    | none => (link.addressesOf host).map (·.map fun ip => ⟨ip, port, 0⟩)

/-- Connects to the first of some sockets that takes a connection; the last failure counts. -/
def Link.connectFirst (link : Link) (failure : IoError) :
    List SocketAddress → Except IoError SocketAddress
  | [] => .error failure
  | s :: rest =>
    match link.connect s with
    | .ok () => .ok s
    | .error e => link.connectFirst e rest

end HostDialing

import HostDialing.Dial.Candidates
import HostDialing.Error
import HostDialing.Ip.Parse

/-!
# Socket addresses of a host

A client that can connect to IP addresses only is given those of a host's addresses that are
literals of one, without a port. A host that has none of them has no addresses for such a client.
-/

namespace HostDialing

def socketsAt (addresses : List String) (positions : List Nat) : List SocketAddress :=
  (inOrder addresses positions).filterMap fun a =>
    (IpAddress.parse? a).map fun ip => ⟨ip, 0, 0⟩

/-- The sockets at the given positions, if there are any. -/
def usableSockets (host : String) (addresses : List String) (positions : List Nat) :
    Except ResolutionError (List SocketAddress) :=
  match socketsAt addresses positions with
  | [] => .error (.noAddresses host)
  | sockets => .ok sockets

end HostDialing

import HostDialing.Dns.Name
import HostDialing.Ip.Parse
import HostDialing.Network.Resolvers

/-!
# Zones

A name server for rehearsals, with the same records for every name. A host that is an IP literal is
its own and only address.
-/

namespace HostDialing

/-- The records of a name server; none where it denies that names exist. -/
structure Zone where
  v4 : List IpAddress
  v6 : List IpAddress
  isDenied : Bool

/-- Addresses of the first family come first; where there is none, those of the second count. -/
def Zone.addresses (z : Zone) : List IpAddress :=
  if z.isDenied then [] else if z.v4.isEmpty then z.v6 else z.v4

/-- What is known of a name. Questions about the records travel over the link; those about names of
the machine itself need none. -/
def Zone.find (link : Link) (z : Zone) (name : DnsName) : List IpAddress :=
  if name.isLoopback then [.v4 127 0 0 1]
  else if name.isReserved then []
  else match link.connect ⟨.v4 127 0 0 1, 53, 0⟩ with
    | .ok () => z.addresses
    | .error _ => []

def Zone.nameServer (link : Link) (z : Zone) : NameServer := fun host =>
  match IpAddress.parse? host with
  | some ip => .ok [ip]
  | none =>
    match ((DnsName.parse? host).map (z.find link)).getD [] with
    | [] => .error ⟨"no record found", []⟩
    | ips => .ok ips

end HostDialing

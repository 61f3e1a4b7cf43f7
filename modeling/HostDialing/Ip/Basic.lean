import HostDialing.Text.Numeral

/-!
# IP addresses

The two families. An address of the first and its image in the second are different addresses.
-/

namespace HostDialing

/-- An address: four octets, or eight groups of sixteen bits. -/
inductive IpAddress where
  | v4 (a b c d : UInt8)
  | v6 (groups : List UInt16) (length_eq : groups.length = 8)
deriving DecidableEq

def IpAddress.isV4 : IpAddress → Bool
  | v4 .. => true
  | v6 .. => false

def IpAddress.isV6 (ip : IpAddress) : Bool := !ip.isV4

/-- An address, a port, and the zone that an address of the second family may be bound to. -/
structure SocketAddress where
  ip : IpAddress
  port : UInt16
  zone : UInt32
deriving DecidableEq

end HostDialing

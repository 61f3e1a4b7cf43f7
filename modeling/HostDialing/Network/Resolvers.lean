import HostDialing.Cache.Resolution
import HostDialing.Ip.Print
import HostDialing.Network.Link

/-!
# Built-in resolvers

A resolver that finds IP addresses gives each of them once, in its text form, in the order in which
it first came. One asks the system, the other a name server.
-/

namespace HostDialing

/-- The texts of the different addresses of a list, in order. -/
def addressTexts (ips : List IpAddress) : List String := ips.eraseDups.map IpAddress.text

/-- What a name server gives instead of addresses: a text, with those of what is behind it. -/
structure NameServerError where
  text : String
  behind : List String := []

/-- What says the addresses of a host. -/
abbrev NameServer := String → Except NameServerError (List IpAddress)

inductive BuiltInResolver where
  | system
  | nameServer (server : NameServer)

/-- The addresses that are found for a host. -/
def BuiltInResolver.find (link : Link) (host : String) :
    BuiltInResolver → Except IoError (List IpAddress)
  | system => (link.find host 0).map fun sockets => sockets.map (·.ip)
  | nameServer server => (server host).mapError fun e => .reported .other e.text e.behind

/-- What a built-in resolver says. -/
def BuiltInResolver.answer (link : Link) (host : String) (resolver : BuiltInResolver) : Answer :=
  (resolver.find link host).map addressTexts

end HostDialing

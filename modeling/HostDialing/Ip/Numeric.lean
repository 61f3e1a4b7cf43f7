import HostDialing.Ip.Parse

/-!
# Numeric hosts

The loose grammar that systems keep for hosts: one to four numbers between dots, each decimal,
octal behind a zero or hexadecimal behind `0x`. All but the last stand for an octet each, the last
for all octets that are left. An address of the second family may name its zone behind a `%`, by a
number or, where it reaches one link only, by an interface.
-/

namespace HostDialing

/-- A number of the loose grammar. Whether nothing behind `0x` is a number is left open. -/
def looseNumber? (bare : Option Nat) : List Char → Option Nat
  | '0' :: 'x' :: cs => if cs = [] then bare else hexDigits? cs
  | '0' :: 'X' :: cs => if cs = [] then bare else hexDigits? cs
  | '0' :: cs => octalDigits? cs
  | cs => digits? cs

/-- The value of numbers that fill a given count of octets, all but the last of them one each. -/
def octetsValue? : Nat → List Nat → Option Nat
  | 0, _ => none
  | _, [] => none
  | room + 1, [n] => if n < Nat.pow 256 (room + 1) then some n else none
  | room + 1, n :: ns =>
    if n < 256 then (octetsValue? room ns).map (n * Nat.pow 256 room + ·) else none

/-- The address of the first family with the octets of a number. -/
def IpAddress.ofValue (n : Nat) : IpAddress :=
  .v4 (UInt8.ofNat (n >>> 24)) (UInt8.ofNat (n >>> 16)) (UInt8.ofNat (n >>> 8)) (UInt8.ofNat n)

/-- Reads numbers of the loose grammar as an address of the first family. -/
def IpAddress.ofNumbers? (bare : Option Nat) (numbers : List (List Char)) : Option IpAddress := do
  return ofValue (← octetsValue? 4 (← numbers.mapM (looseNumber? bare)))

/-- The same address may exist on every link: it begins with `fe80::/10`, or it is a multicast
address of interface or link scope. -/
def IpAddress.isLinkLocal : IpAddress → Bool
  | v6 (g :: _) _ => g &&& 0xffc0 == 0xfe80 || g &&& 0xff0f == 0xff01 || g &&& 0xff0f == 0xff02
  | _ => false

/-- The zone that a text names for an address, given the numbers of the interfaces. -/
def zoneNumber? (interfaces : List (String × UInt32)) (ip : IpAddress) (zone : List Char) :
    Option UInt32 :=
  let named := if ip.isLinkLocal then interfaces.lookup (String.ofList zone) else none
  named <|> (below? UInt32.size zone).map UInt32.ofNat

/-- Reads a host that needs no look-up, with its zone. -/
def numericHost? (interfaces : List (String × UInt32)) (host : List Char) :
    Option (IpAddress × UInt32) :=
  match IpAddress.ofNumbers? none (fields '.' host) with
  | some ip => some (ip, 0)
  | none => do
    let (address, zone) := host.span (· ≠ '%')
    let ip ← v6? address
    match zone with
    | [] => return (ip, 0)
    | _ :: zone => return (ip, ← zoneNumber? interfaces ip zone)

end HostDialing

import HostDialing.Ip.Basic
import HostDialing.Text.Fields

/-!
# Text of IP addresses

Each address has one text: octets in decimal between dots, or groups in lower-case hexadecimal
between colons, where the first of the longest runs of at least two zero groups is left out. An
address of the first family that is mapped into the second keeps its dots.
-/

namespace HostDialing

def octetsText (a b c d : UInt8) : List Char :=
  joined '.' [decimal a.toNat, decimal b.toNat, decimal c.toNat, decimal d.toNat]

def groupsText (groups : List UInt16) : List Char :=
  joined ':' (groups.map fun g => hexadecimal g.toNat)

/-- How many zeros a list starts with. -/
def leadingZeros (groups : List UInt16) : Nat := (groups.takeWhile (· == 0)).length

/-- Start and length of the first of the longest runs of zeros. -/
def longestZeros (groups : List UInt16) : Nat × Nat :=
  let runs := (List.range groups.length).map fun i => leadingZeros (groups.drop i)
  let length := runs.foldl max 0
  (runs.idxOf length, length)

/-- The octets behind a group, first the high one. -/
def octetsOf (g : UInt16) : UInt8 × UInt8 := ((g >>> 8).toUInt8, g.toUInt8)

def IpAddress.chars : IpAddress → List Char
  | v4 a b c d => octetsText a b c d
  | v6 [0, 0, 0, 0, 0, 0xffff, g, h] _ =>
    "::ffff:".toList ++ octetsText (octetsOf g).1 (octetsOf g).2 (octetsOf h).1 (octetsOf h).2
  | v6 groups _ =>
    let run := longestZeros groups
    if run.2 > 1 then
      groupsText (groups.take run.1) ++ [':', ':'] ++ groupsText (groups.drop (run.1 + run.2))
    else groupsText groups

def IpAddress.text (ip : IpAddress) : String := String.ofList ip.chars

def SocketAddress.text (s : SocketAddress) : String :=
  let port := ':' :: decimal s.port.toNat
  String.ofList <| match s.ip with
    | .v4 .. => s.ip.chars ++ port
    | .v6 .. =>
      let zone := if s.zone = 0 then [] else '%' :: decimal s.zone.toNat
      '[' :: s.ip.chars ++ zone ++ ']' :: port

end HostDialing

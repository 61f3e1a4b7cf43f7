import HostDialing.Ip.Basic
import HostDialing.Text.Fields

/-!
# Reading IP addresses

The strict grammar: four octets without leading zeros, or groups of one to four hexadecimal digits
of which a double colon leaves out at least one. The last two groups may be written as four octets.
-/

namespace HostDialing

/-- An octet: at most three digits, and no zero before others. -/
def octet? (cs : List Char) : Option UInt8 :=
  if cs.length ≤ 3 ∧ (cs.head? ≠ some '0' ∨ cs.length = 1) then
    (digits? cs).bind fun n => if h : n < UInt8.size then some (UInt8.ofNatLT n h) else none
  else none

def octets? (cs : List Char) : Option (UInt8 × UInt8 × UInt8 × UInt8) :=
  match fields '.' cs with
  | [a, b, c, d] => do return (← octet? a, ← octet? b, ← octet? c, ← octet? d)
  | _ => none

/-- A group: one to four hexadecimal digits. -/
def group? (cs : List Char) : Option UInt16 :=
  if cs ≠ [] ∧ cs.length ≤ 4 then (hexDigits? cs).map UInt16.ofNat else none

/-- Two octets as a group. -/
def groupOf (high low : UInt8) : UInt16 := high.toUInt16 <<< 8 ||| low.toUInt16

/-- Groups, the last two of which may be octets where `tail` says so. -/
def groupList? (tail : Bool) : List (List Char) → Option (List UInt16)
  | [] => some []
  | [f] =>
    match group? f with
    | some g => some [g]
    | none =>
      if tail then (octets? f).map fun (a, b, c, d) => [groupOf a b, groupOf c d] else none
  | f :: fs => do
    let g ← group? f
    return g :: (← groupList? tail fs)

/-- Groups with colons between them; the empty text has none. -/
def groups? (tail : Bool) (cs : List Char) : Option (List UInt16) :=
  if cs = [] then some [] else groupList? tail (fields ':' cs)

/-- The text before and behind the first double colon. -/
def splitGap : List Char → Option (List Char × List Char)
  | [] => none
  | [_] => none
  | ':' :: ':' :: cs => some ([], cs)
  | c :: d :: cs => (splitGap (d :: cs)).map fun r => (c :: r.1, r.2)

/-- Groups before and behind a gap of at least one zero group. -/
def filled? (before behind : List UInt16) : Option IpAddress :=
  let groups := before ++ List.replicate (8 - before.length - behind.length) 0 ++ behind
  if h : before.length + behind.length ≤ 7 then
    some (.v6 groups (by simp [groups]; omega))
  else none

def v6? (cs : List Char) : Option IpAddress :=
  match splitGap cs with
  | some (before, behind) => do filled? (← groups? false before) (← groups? true behind)
  | none => do
    let groups ← groups? true cs
    if h : groups.length = 8 then some (.v6 groups h) else none

/-- Reads an address of either family. -/
def IpAddress.ofChars? (cs : List Char) : Option IpAddress :=
  match octets? cs with
  | some (a, b, c, d) => some (.v4 a b c d)
  | none => v6? cs

def IpAddress.parse? (s : String) : Option IpAddress := ofChars? s.toList

/-- Reads digits with a value below a bound, whatever zeros lead. -/
def below? (bound : Nat) (cs : List Char) : Option Nat := (digits? cs).filter (· < bound)

/-- The zone behind an address; a missing one is zero. -/
def zone? : List Char → Option UInt32
  | [] => some 0
  | '%' :: cs => (below? UInt32.size cs).map UInt32.ofNat
  | _ => none

/-- Reads an address in brackets, from behind the opening one. -/
def SocketAddress.ofBracketed? (cs : List Char) : Option SocketAddress :=
  match cs.span (· ≠ ']') with
  | (inside, _ :: ':' :: port) => do
    let (ip, zone) := inside.span (· ≠ '%')
    return ⟨← v6? ip, UInt16.ofNat (← below? UInt16.size port), ← zone? zone⟩
  | _ => none

/-- Reads `a.b.c.d:port` or `[groups]:port`. -/
def SocketAddress.ofChars? : List Char → Option SocketAddress
  | '[' :: cs => ofBracketed? cs
  | cs =>
    match cs.span (· ≠ ':') with
    | (ip, _ :: port) => do
      let (a, b, c, d) ← octets? ip
      return ⟨.v4 a b c d, UInt16.ofNat (← below? UInt16.size port), 0⟩
    | _ => none

def SocketAddress.parse? (s : String) : Option SocketAddress := ofChars? s.toList

end HostDialing

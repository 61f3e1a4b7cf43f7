import HostDialing.Error

/-!
# Dial targets

A target is a host and a port, written `host:port`; a host with a colon in it stands in brackets.
The port is always explicit.
-/

namespace HostDialing

structure Target where
  host : String
  port : UInt16
deriving DecidableEq

/-- The host and the port in a target's text, both as they are written. -/
def Target.split : List Char → Except AddressFault (List Char × List Char)
  | '[' :: cs =>
    match cs.span (· ≠ ']') with
    | (_, []) => .error .missingBracket
    | (host, _ :: ':' :: port) => .ok (host, port)
    | _ => .error .missingPort
  | cs =>
    match cs.span (· ≠ ':') with
    | (_, []) => .error .missingPort
    | (host, _ :: port) => if ':' ∈ port then .error .tooManyColons else .ok (host, port)

def Target.ofChars (cs : List Char) : Except AddressFault Target := do
  let (host, port) ← Target.split cs
  if port = [] then .error .missingPort
  else match port? port with
    | some n => .ok ⟨String.ofList host, n⟩
    | none => .error .invalidPort

/-- Reads `host:port` or `[host]:port`. -/
def Target.parse (addr : String) : Except DialError Target :=
  match Target.ofChars addr.toList with
  | .ok target => .ok target
  | .error fault => .error (.addressFormat addr fault)

/-- A host and a port as one text; a host with a colon in it is bracketed. -/
def joinHostPort (host : String) (port : UInt16) : String :=
  let digits := String.ofList (decimal port.toNat)
  if ':' ∈ host.toList then "[" ++ host ++ "]:" ++ digits else host ++ ":" ++ digits

def Target.text (t : Target) : String := joinHostPort t.host t.port

end HostDialing

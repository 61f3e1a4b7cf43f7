import HostDialing.Json.Skip

/-!
# Reading a JSON string

The characters of a string that somebody asked for, from behind its opening quote. Escaped halves
of a surrogate pair must stand together.
-/

namespace HostDialing

/-- The character that a one-letter escape stands for. -/
def escaped? (c : Char) : Option Char :=
  match c with
  | '"' => some '"'
  | '\\' => some '\\'
  | '/' => some '/'
  | 'b' => some '\x08'
  | 'f' => some '\x0c'
  | 'n' => some '\n'
  | 'r' => some '\r'
  | 't' => some '\t'
  | _ => none

def isHighSurrogate (n : Nat) : Bool := 0xd800 ≤ n && n ≤ 0xdbff

def isLowSurrogate (n : Nat) : Bool := 0xdc00 ≤ n && n ≤ 0xdfff

/-- The character of a surrogate pair. -/
def surrogatePair (high low : Nat) : Char :=
  Char.ofNat ((high - 0xd800) * 0x400 + (low - 0xdc00) + 0x10000)

/-- Four hexadecimal digits are malformed, or cut short where the text has no room for them. -/
def codeError (cs : List Char) : JsonFault := if isShort cs then .ended else .malformed

/-- What is wrong behind the first half of a surrogate pair. -/
def secondHalfError : List Char → JsonFault
  | [] => .ended
  | ['\\'] => .ended
  | '\\' :: 'u' :: cs => codeError cs
  | _ => .malformed

/-- Reads to the closing quote; `read` holds the characters so far, the last one first. -/
def readText (read : List Char) : List Char → Except JsonFault (List Char × List Char)
  | [] => .error .ended
  | '"' :: cs => .ok (read.reverse, cs)
  | ['\\'] => .error .ended
  | '\\' :: 'u' :: a :: b :: c :: d :: cs =>
    match hexDigits? [a, b, c, d] with
    | none => .error (codeError (a :: b :: c :: d :: cs))
    | some n =>
      if isLowSurrogate n then .error .malformed
      else if isHighSurrogate n then
        match cs with
        | '\\' :: 'u' :: e :: f :: g :: h :: rest =>
          match hexDigits? [e, f, g, h] with
          | none => .error (codeError (e :: f :: g :: h :: rest))
          | some m =>
            if isLowSurrogate m then readText (surrogatePair n m :: read) rest
            else .error .malformed
        | cs => .error (secondHalfError cs)
      else readText (Char.ofNat n :: read) cs
  | '\\' :: 'u' :: cs => .error (codeError cs)
  | '\\' :: c :: cs =>
    match escaped? c with
    | some d => readText (d :: read) cs
    | none => .error .malformed
  | c :: cs => if c.toNat < 0x20 then .error .malformed else readText (c :: read) cs

end HostDialing

import HostDialing.Url.Host

/-!
# HTTP URLs

Where a request goes: the host and the port of a URL. What stands before the host, as a user's name,
and behind the port does not matter for that.
-/

namespace HostDialing

structure HttpUrl where
  host : UrlHost
  port : UInt16
deriving DecidableEq

def isSlash (c : Char) : Bool := c == '/' || c == '\\'

/-- The text without control characters and spaces at its ends, and without tabs and line breaks. -/
def cleaned (cs : List Char) : List Char :=
  let start := cs.dropWhile fun c => c.toNat ≤ 0x20
  let inner := (start.reverse.dropWhile fun c => c.toNat ≤ 0x20).reverse
  inner.filter fun c => c ∉ ['\t', '\n', '\r']

/-- The text from the first colon on that is in no brackets, and the text before it. -/
def splitPort (isInside : Bool) : List Char → List Char × List Char
  | [] => ([], [])
  | c :: cs =>
    if c = ':' ∧ !isInside then ([], c :: cs)
    else
      let r := splitPort (c = '[' || (isInside && c != ']')) cs
      (c :: r.1, r.2)

/-- The port behind a host, or the one that HTTP has by itself. -/
def urlPort? : List Char → Option UInt16
  | [] => some 80
  | [_] => some 80
  | _ :: cs => (below? UInt16.size cs).map UInt16.ofNat

/-- Reads a host with its port. -/
def HttpUrl.ofHostAndPort? (cs : List Char) : Option HttpUrl := do
  let (host, port) := splitPort false cs
  return ⟨← UrlHost.ofChars? host, ← urlPort? port⟩

/-- Reads a URL from behind its scheme. Any number of slashes may come before the host. -/
def HttpUrl.ofHierarchy? (cs : List Char) : Option HttpUrl :=
  let authority := (cs.dropWhile isSlash).takeWhile fun c => !isSlash c && c != '?' && c != '#'
  ofHostAndPort? (((splitLast '@' authority).map (·.2)).getD authority)

def HttpUrl.parse? (url : String) : Option HttpUrl :=
  let cs := cleaned url.toList
  if (cs.take 5).map Char.toLower = "http:".toList then ofHierarchy? (cs.drop 5) else none

/-- The host with its port, where that is not the one that HTTP has by itself. -/
def HttpUrl.hostText (u : HttpUrl) : String :=
  if u.port = 80 then u.host.text
  else u.host.text ++ ":" ++ String.ofList (decimal u.port.toNat)

end HostDialing

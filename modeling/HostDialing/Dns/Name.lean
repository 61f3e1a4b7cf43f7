import HostDialing.Domain.Ascii
import HostDialing.Text.Alphanumeric
import HostDialing.Text.Numeral
import HostDialing.Text.Unprintable
import HostDialing.Text.Whitespace

/-!
# Names of the domain name system

A name is read label by label, where a backslash takes a character literally, or by its code in
three octal digits. A label in ASCII is of letters, digits and hyphens, unless it begins with an
underscore, as those of services do, or is a star. Some names are answered without asking: those of
the machine itself, and those that never exist.
-/

namespace HostDialing

/-- Labels, from the most special to the most general. -/
structure DnsName where
  labels : List (List Char)
deriving DecidableEq

/-- Where a reader of labels stands: in a label, behind a backslash, or behind octal digits, with
the count of those to come and the value so far. -/
inductive LabelPlace where
  | plain
  | escape
  | octal (missing value : Nat)

/-- Reads labels; of the first, what has been read already is given from its end. A backslash
without its character does not count. -/
def readLabels (read : List Char) : LabelPlace → List Char → Option (List (List Char))
  | _, [] => some (if read = [] then [] else [read.reverse])
  | .plain, c :: cs =>
    if c = '.' then (readLabels [] .plain cs).map (read.reverse :: ·)
    else if c = '\\' then readLabels read .escape cs
    else if isControl c || isWhiteSpace c then none
    else readLabels (c :: read) .plain cs
  | .escape, c :: cs =>
    if isNumeric c then (octalDigits? [c]).bind fun n => readLabels read (.octal 2 n) cs
    else readLabels (c :: read) .plain cs
  | .octal missing value, c :: cs =>
    (octalDigits? [c]).bind fun n =>
      if missing = 1 then readLabels (Char.ofNat (8 * value + n) :: read) .plain cs
      else readLabels read (.octal (missing - 1) (8 * value + n)) cs

/-- The label of a service. A dot in a label does not divide it. -/
def isServiceLabel (label : List Char) : Bool :=
  label.head? = some '_' && label.all fun c => c.isAlphanum || c ∈ ['-', '_', '.']

/-- A label that may stand for a host. -/
def isHostLabel (label : List Char) : Bool :=
  (label.head?.map Char.isAlphanum).getD false
    && label.all fun c => c.isAlphanum || c ∈ ['-', '.']

/-- A label in ASCII. -/
def dnsLabel? (label : List Char) : Option (List Char) :=
  let ascii :=
    if label = ['*'] || isServiceLabel label then some label
    else (asciiDomain? label).filter isHostLabel
  ascii.filter fun label => label.length ≤ 63

/-- Reads a name of at most 253 characters in ASCII. A final dot does not count. -/
def DnsName.parse? (s : String) : Option DnsName := do
  let labels ← if s = "." then some [] else readLabels [] .plain s.toList
  let labels ← labels.mapM dnsLabel?
  if (joined '.' labels).length ≤ 253 then return ⟨labels⟩ else none

/-- The name belongs to a zone, whatever its case. -/
def DnsName.isWithin (zone : List String) (name : DnsName) : Bool :=
  (zone.map String.toList).isSuffixOf (name.labels.map (·.map Char.toLower))

/-- The name is one of the machine's own, or one that its own addresses go by. -/
def DnsName.isLoopback (name : DnsName) : Bool :=
  name.isWithin ["localhost"] || name.isWithin ["127", "in-addr", "arpa"]
    || name.isWithin (["1"] ++ List.replicate 31 "0" ++ ["ip6", "arpa"])

/-- The name never exists in the domain name system. -/
def DnsName.isReserved (name : DnsName) : Bool :=
  name.isWithin ["invalid"] || name.isWithin ["onion"]

end HostDialing

import HostDialing.Domain.Ascii
import HostDialing.Ip.Numeric
import HostDialing.Ip.Print
import HostDialing.Url.Percent

/-!
# Hosts of URLs

An address of the second family in brackets, or a name. A name is decoded and put into the one form
in which it is sent, and one that ends in a number has to be a loose address of the first family.
-/

namespace HostDialing

inductive UrlHost where
  | ip (address : IpAddress)
  | domain (name : String)
deriving DecidableEq

def isForbiddenInDomain (c : Char) : Bool :=
  c.toNat ≤ 0x20 || c == '\x7f'
    || c ∈ ['#', '%', '/', ':', '<', '>', '?', '@', '[', '\\', ']', '^', '|']

/-- The labels of a name, less an empty one behind a final dot. -/
def nameLabels (name : List Char) : List (List Char) :=
  let labels := fields '.' name
  if labels.length > 1 ∧ labels.getLast? = some [] then labels.dropLast else labels

def isNumberLabel (label : List Char) : Bool :=
  (label ≠ [] && label.all Char.isDigit) || (looseNumber? (some 0) label).isSome

/-- Reads a name in ASCII. A bare `0x` counts as zero. -/
def UrlHost.ofAscii? (name : List Char) : Option UrlHost :=
  let labels := nameLabels name
  if (labels.getLast?.map isNumberLabel).getD false then
    (IpAddress.ofNumbers? (some 0) labels).map .ip
  else some (.domain (String.ofList name))

/-- Reads an address from behind the opening bracket. -/
def UrlHost.ofBracketed? (cs : List Char) : Option UrlHost :=
  if cs.getLast? = some ']' then (v6? cs.dropLast).map .ip else none

def UrlHost.ofChars? : List Char → Option UrlHost
  | '[' :: cs => ofBracketed? cs
  | cs => do
    let name ← asciiDomain? (← percentDecoded? cs)
    if name = [] ∨ name.any isForbiddenInDomain then none else ofAscii? name

/-- The host as it stands in a URL. -/
def UrlHost.text : UrlHost → String
  | ip (.v4 a b c d) => (IpAddress.v4 a b c d).text
  | ip (.v6 groups h) => "[" ++ (IpAddress.v6 groups h).text ++ "]"
  | domain name => name

end HostDialing

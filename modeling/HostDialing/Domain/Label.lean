import HostDialing.Domain.Joining
import HostDialing.Domain.Mapping
import HostDialing.Domain.Punycode
import HostDialing.Text.Normal.Composed

/-!
# Labels

The parts of a domain name. A label beyond ASCII is sent as punycode behind `xn--`, and a label that
is written so has to be what writing would give.
-/

namespace HostDialing

def isAscii (cs : List Char) : Bool := cs.all fun c => c.toNat < 0x80

/-- Characters in normal form make a label: a mark needs something that bears it, and joiners have
to be seen. -/
def isLabel (cs : List Char) : Bool :=
  !(cs.head?.map isMark).getD false && areJoinersSeen [] cs

/-- The label behind a mark of encoding. -/
def ofEncodedLabel? (code : List Char) : Option (List Char) := do
  let cs ← if isAscii code then ofPunycode? code else none
  if !isAscii cs && cs.take 4 ≠ ['x', 'n', '-', '-'] && cs.all (fun c => mapped? c == some [c])
      && normalForm cs = cs && isLabel cs then return cs else none

/-- The characters that a label stands for, if it is one. -/
def labelText? (label : List Char) : Option (List Char) :=
  match label with
  | 'x' :: 'n' :: '-' :: '-' :: code => ofEncodedLabel? code
  | label => if isAscii label || isLabel label then some label else none

/-- A label as it is sent. -/
def asciiLabel (label : List Char) : List Char :=
  if isAscii label then label else ['x', 'n', '-', '-'] ++ punycode label

end HostDialing

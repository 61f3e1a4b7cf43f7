import HostDialing.Json.Number
import HostDialing.Json.Text

/-!
# Looking at a JSON value

A reader that wants a value of one kind looks at what there is: a scalar is read in full, a list or
an object only seen to begin.
-/

namespace HostDialing

/-- Reads the rest of a word whose first letter stands before it. -/
def readLiteral (found : JsonFound) (word cs : List Char) :
    Except JsonFault (JsonFound × List Char) :=
  match word, cs with
  | [], cs => .ok (found, cs)
  | _, [] => .error .ended
  | l :: word, c :: cs => if c = l then readLiteral found word cs else .error .malformed

/-- The first character that is no blank, and the text behind it. -/
def firstChar (cs : List Char) : Except JsonFault (Char × List Char) :=
  match skipBlank cs with
  | [] => .error .ended
  | c :: rest => .ok (c, rest)

/-- Looks at the value at the start of a text: scalars are read, lists and objects only seen. -/
def readFound (cs : List Char) : Except JsonFault (JsonFound × List Char) := do
  let (c, rest) ← firstChar cs
  if c = '-' then readNumber true rest
  else if c.isDigit then readNumber false (c :: rest)
  else if c = '"' then
    let (s, rest) ← readText [] rest
    return (.text (String.ofList s), rest)
  else if c = 'n' then readLiteral .null ['u', 'l', 'l'] rest
  else if c = 't' then readLiteral (.boolean true) ['r', 'u', 'e'] rest
  else if c = 'f' then readLiteral (.boolean false) ['a', 'l', 's', 'e'] rest
  else if c = '[' then return (.sequence, rest)
  else if c = '\x7b' then return (.map, rest)
  else throw .malformed

/-- Reads the colon between a name and a value. -/
def readColon (cs : List Char) : Except JsonFault (List Char) := do
  let (c, rest) ← firstChar cs
  if c = ':' then return rest else throw .malformed

end HostDialing

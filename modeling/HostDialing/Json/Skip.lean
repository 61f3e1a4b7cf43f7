import HostDialing.Json.Found

/-!
# Skipping a JSON value

A value that nobody asked for is passed over character by character, by a machine that knows where
in the value it stands and which lists and objects are still open. Nesting may have any depth.
Strings and numbers are held to their grammar only: an escape may be half of a surrogate pair, a
number may be beyond every range.
-/

namespace HostDialing

def isJsonBlank (c : Char) : Bool := c == ' ' || c == '\n' || c == '\t' || c == '\r'

def skipBlank (cs : List Char) : List Char := cs.dropWhile isJsonBlank

/-- Where in a number a reader stands: which characters it has seen last. -/
inductive NumberPart where
  | minus | zero | whole | point | places | mark | sign | power
deriving DecidableEq

/-- What a character does to a number. -/
inductive NumberMove where
  | goes (part : NumberPart)
  | ends
  | fails
deriving DecidableEq

def isOneToNine (c : Char) : Bool := '1' ≤ c && c ≤ '9'

def isExponentMark (c : Char) : Bool := c == 'e' || c == 'E'

def isSign (c : Char) : Bool := c == '+' || c == '-'

def NumberPart.move : NumberPart → Char → NumberMove
  | minus, c => if c = '0' then .goes zero else if isOneToNine c then .goes whole else .fails
  | zero, c =>
    if c.isDigit then .fails else if c = '.' then .goes point
    else if isExponentMark c then .goes mark else .ends
  | whole, c =>
    if c.isDigit then .goes whole else if c = '.' then .goes point
    else if isExponentMark c then .goes mark else .ends
  | point, c => if c.isDigit then .goes places else .fails
  | places, c =>
    if c.isDigit then .goes places else if isExponentMark c then .goes mark else .ends
  | mark, c => if isSign c then .goes sign else if c.isDigit then .goes power else .fails
  | sign, c => if c.isDigit then .goes power else .fails
  | power, c => if c.isDigit then .goes power else .ends

/-- A number may end here. -/
def NumberPart.isWhole : NumberPart → Bool
  | zero | whole | places | power => true
  | minus | point | mark | sign => false

/-- A list or an object that is still open. -/
inductive JsonFrame where
  | list
  | object
deriving DecidableEq

/-- Where in a value a reader stands. -/
inductive JsonPlace where
  | value
  | firstItem
  | firstName
  | name
  | colon
  | after
  | text (isName : Bool)
  | escape (isName : Bool)
  | code (isName : Bool) (left : Nat)
  | literal (left : List Char)
  | number (part : NumberPart)
deriving DecidableEq

structure JsonScan where
  place : JsonPlace
  frames : List JsonFrame
deriving DecidableEq

/-- What a character does to the reading of a value. -/
inductive JsonMove where
  | goes (scan : JsonScan)
  | ends
  | fails (fault : JsonFault)
deriving DecidableEq

/-- A value begins. -/
def JsonScan.begin (frames : List JsonFrame) (c : Char) : JsonMove :=
  if c = '[' then .goes ⟨.firstItem, .list :: frames⟩
  else if c = '\x7b' then .goes ⟨.firstName, .object :: frames⟩
  else if c = '"' then .goes ⟨.text false, frames⟩
  else if c = '-' then .goes ⟨.number .minus, frames⟩
  else if c = '0' then .goes ⟨.number .zero, frames⟩
  else if isOneToNine c then .goes ⟨.number .whole, frames⟩
  else if c = 'n' then .goes ⟨.literal ['u', 'l', 'l'], frames⟩
  else if c = 't' then .goes ⟨.literal ['r', 'u', 'e'], frames⟩
  else if c = 'f' then .goes ⟨.literal ['a', 'l', 's', 'e'], frames⟩
  else .fails .malformed

/-- A value has ended inside the open frames. -/
def JsonScan.follow (frames : List JsonFrame) (c : Char) : JsonMove :=
  match frames with
  | [] => .ends
  | .list :: outer =>
    if isJsonBlank c then .goes ⟨.after, frames⟩
    else if c = ',' then .goes ⟨.value, frames⟩
    else if c = ']' then .goes ⟨.after, outer⟩
    else .fails .malformed
  | .object :: outer =>
    if isJsonBlank c then .goes ⟨.after, frames⟩
    else if c = ',' then .goes ⟨.name, frames⟩
    else if c = '\x7d' then .goes ⟨.after, outer⟩
    else .fails .malformed

/-- The size of a text in bytes is less than four. -/
def isShort (cs : List Char) : Bool := (cs.take 4).foldl (fun n c => n + c.utf8Size) 0 < 4

/-- What the next character does, with the text behind it: four hexadecimal digits that the text
has no room for are a text that ends too early. -/
def JsonScan.step (s : JsonScan) (c : Char) (rest : List Char) : JsonMove :=
  match s.place with
  | .value => if isJsonBlank c then .goes s else JsonScan.begin s.frames c
  | .firstItem =>
    if isJsonBlank c then .goes s
    else if c = ']' then .goes ⟨.after, s.frames.drop 1⟩
    else JsonScan.begin s.frames c
  | .firstName =>
    if isJsonBlank c then .goes s
    else if c = '\x7d' then .goes ⟨.after, s.frames.drop 1⟩
    else if c = '"' then .goes ⟨.text true, s.frames⟩
    else .fails .malformed
  | .name =>
    if isJsonBlank c then .goes s
    else if c = '"' then .goes ⟨.text true, s.frames⟩
    else .fails .malformed
  | .colon =>
    if isJsonBlank c then .goes s
    else if c = ':' then .goes ⟨.value, s.frames⟩
    else .fails .malformed
  | .after => JsonScan.follow s.frames c
  | .text isName =>
    if c = '"' then .goes ⟨if isName then .colon else .after, s.frames⟩
    else if c = '\\' then .goes ⟨.escape isName, s.frames⟩
    else if c.toNat < 0x20 then .fails .malformed
    else .goes s
  | .escape isName =>
    if c = 'u' then
      if isShort rest then .fails .ended else .goes ⟨.code isName 4, s.frames⟩
    else if c ∈ ['"', '\\', '/', 'b', 'f', 'n', 'r', 't'] then .goes ⟨.text isName, s.frames⟩
    else .fails .malformed
  | .code isName left =>
    if (hexDigit? c).isNone then .fails .malformed
    else .goes ⟨if left ≤ 1 then .text isName else .code isName (left - 1), s.frames⟩
  | .literal [] => JsonScan.follow s.frames c
  | .literal (l :: left) =>
    if c = l then .goes ⟨if left = [] then .after else .literal left, s.frames⟩
    else .fails .malformed
  | .number part =>
    match part.move c with
    | .goes next => .goes ⟨.number next, s.frames⟩
    | .ends => JsonScan.follow s.frames c
    | .fails => .fails .malformed

/-- What the end of the text does: a number cut short is no number, any other value is one that
ended too early. -/
def JsonScan.finish (s : JsonScan) : Except JsonFault Unit :=
  match s.place with
  | .after => if s.frames = [] then .ok () else .error .ended
  | .number part =>
    if !part.isWhole then .error .malformed
    else if s.frames = [] then .ok () else .error .ended
  | _ => .error .ended

/-- The text behind the value that a scan is in. -/
def JsonScan.run (s : JsonScan) : List Char → Except JsonFault (List Char)
  | [] => s.finish.map fun _ => []
  | c :: cs =>
    match s.step c cs with
    | .goes next => next.run cs
    | .ends => .ok (c :: cs)
    | .fails e => .error e

/-- The text behind the value at its start. -/
def skipValue (cs : List Char) : Except JsonFault (List Char) := JsonScan.run ⟨.value, []⟩ cs

end HostDialing

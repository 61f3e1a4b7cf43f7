import HostDialing.Environment.Basic
import HostDialing.Text.Alphanumeric
import HostDialing.Text.Utf8
import HostDialing.Text.Whitespace

/-!
# Environment files

A file of `NAME=VALUE` lines that give defaults to an environment. Quotes may hold line breaks, a
comment begins at a `#` behind white space, and a value may refer to variables that are already
set. Lines are taken in order up to the first that is malformed or no text; what stands before it
counts.
-/

namespace HostDialing

/-- What the characters of a line have opened so far. -/
inductive LineState where
  | complete
  | blank
  | escape
  | single
  | singleEscape
  | double
  | doubleEscape
deriving DecidableEq

/-- What a character opens or closes outside quotes. -/
def LineState.outside (c : Char) : LineState :=
  if c = '\\' then escape else if c = '"' then double else if c = '\'' then single else complete

/-- What a character does to a line; none where it begins a comment. -/
def LineState.next? : LineState → Char → Option LineState
  | complete, c => if isWhiteSpace c ∧ c ≠ '\n' ∧ c ≠ '\r' then some blank else some (outside c)
  | blank, c => if c = '#' then none else some (outside c)
  | escape, _ => some complete
  | single, c =>
    some (if c = '\\' then singleEscape else if c = '\'' then complete else single)
  | singleEscape, _ => some single
  | double, c => some (if c = '\\' then doubleEscape else if c = '"' then complete else double)
  | doubleEscape, _ => some double

/-- A line up to a comment, and what it has opened at its end; a comment closes all. -/
def LineState.scan (s : LineState) : List Char → List Char × LineState
  | [] => ([], s)
  | c :: cs =>
    match s.next? c with
    | none => ([], complete)
    | some t => let r := t.scan cs; (c :: r.1, r.2)

/-- The lines of a file, each with its line break. -/
def physicalLines : List UInt8 → List (List UInt8)
  | [] => []
  | b :: bytes =>
    if b = 0x0a then [b] :: physicalLines bytes
    else match physicalLines bytes with
      | [] => [[b]]
      | l :: ls => (b :: l) :: ls

/-- The texts of the lines of a file; `none` stands for a line that is no text. -/
def lineTexts (bytes : List UInt8) : List (Option (List Char)) :=
  (physicalLines bytes).map utf8Text?

/-- Lines joined where quotes hold a line break, without comments; `none` stands for a line that is
no text, or for a text that ends inside of something. -/
def logicalLines (pending : List Char) (s : LineState) :
    List (Option (List Char)) → List (Option (List Char))
  | [] => if s = .complete then [] else [none]
  | none :: _ => [none]
  | some l :: ls =>
    if (trimStart (pending ++ l)).head? = some '#' then logicalLines [] .complete ls
    else
      let r := s.scan l
      if r.2 = .complete then some (pending ++ r.1) :: logicalLines [] .complete ls
      else logicalLines (pending ++ r.1) r.2 ls

/-- A part of a value: a character, or the value of a variable. -/
inductive ValuePart where
  | char (c : Char)
  | reference (name : List Char)
deriving DecidableEq

/-- Where in a value a reader stands; `quoted` is inside double quotes. -/
inductive ValuePlace where
  | plain
  | single
  | double
  | escape (quoted : Bool)
  | name (quoted : Bool) (read : List Char)
  | braced (quoted : Bool) (read : List Char)
  | ended
deriving DecidableEq

/-- The place behind something that may stand inside and outside double quotes. -/
def ValuePlace.back (quoted : Bool) : ValuePlace := if quoted then double else plain

/-- The character that an escape stands for. -/
def valueEscape? (c : Char) : Option Char :=
  if c ∈ ['\\', '\'', '"', '$', ' '] then some c else if c = 'n' then some '\n' else none

/-- Reads a value, if it is well formed: a blank outside quotes ends it, and only blanks and a
comment may follow. -/
def readValue : ValuePlace → List Char → Option (List ValuePart)
  | .plain, [] => some []
  | .ended, [] => some []
  | .escape quoted, [] => if quoted then none else some []
  | .name quoted read, [] => if quoted then none else some [.reference read.reverse]
  | _, [] => none
  | .plain, c :: cs =>
    if c = '$' then readValue (.name false []) cs
    else if c = '\'' then readValue .single cs
    else if c = '"' then readValue .double cs
    else if c = '\\' then readValue (.escape false) cs
    else if c = ' ' ∨ c = '\t' then readValue .ended cs
    else (readValue .plain cs).map (.char c :: ·)
  | .ended, c :: cs =>
    if c = ' ' ∨ c = '\t' then readValue .ended cs else if c = '#' then some [] else none
  | .single, c :: cs =>
    if c = '\'' then readValue .plain cs else (readValue .single cs).map (.char c :: ·)
  | .double, c :: cs =>
    if c = '$' then readValue (.name true []) cs
    else if c = '"' then readValue .plain cs
    else if c = '\\' then readValue (.escape true) cs
    else (readValue .double cs).map (.char c :: ·)
  | .escape quoted, c :: cs =>
    match valueEscape? c with
    | some d => (readValue (.back quoted) cs).map (.char d :: ·)
    | none => none
  | .name quoted read, c :: cs =>
    if isAlphanumeric c then readValue (.name quoted (c :: read)) cs
    else if c = '\x7b' ∧ read = [] then readValue (.braced quoted []) cs
    else if c = '$' then
      (readValue (.name quoted []) cs).map (.reference read.reverse :: ·)
    else (readValue (.back quoted) cs).map fun r => .reference read.reverse :: .char c :: r
  | .braced quoted read, c :: cs =>
    if c = '\x7d' then (readValue (.back quoted) cs).map (.reference read.reverse :: ·)
    else readValue (.braced quoted (c :: read)) cs

structure Assignment where
  name : String
  value : List ValuePart

/-- What a line says: an assignment, nothing, or something malformed. -/
inductive LineContent where
  | assignment (a : Assignment)
  | nothing
  | malformed

def isNameStart (c : Char) : Bool := c.isAlpha || c == '_'

def isNameChar (c : Char) : Bool := c.isAlphanum || c == '_' || c == '.'

/-- A variable's name and the text behind it. -/
def readName (cs : List Char) : Option (List Char × List Char) :=
  match cs with
  | c :: _ => if isNameStart c then some (cs.span isNameChar) else none
  | [] => none

/-- A name, and the text behind the equals sign that follows it. The word `export` may stand
before the name. -/
def readAssigned (cs : List Char) : Option (List Char × List Char) := do
  let (name, rest) ← readName cs
  match trimStart rest with
  | '=' :: rest => some (name, rest)
  | rest =>
    if name = "export".toList then
      let (name, rest) ← readName rest
      match trimStart rest with
      | '=' :: rest => some (name, rest)
      | _ => none
    else none

/-- Reads a line; white space around it does not count. -/
def LineContent.ofLine (line : List Char) : LineContent :=
  match trim line with
  | [] => .nothing
  | '#' :: _ => .nothing
  | cs =>
    match readAssigned cs with
    | none => .malformed
    | some (name, rest) =>
      match trimStart rest with
      | [] => .assignment ⟨String.ofList name, []⟩
      | '#' :: _ => .assignment ⟨String.ofList name, []⟩
      | value =>
        match readValue .plain value with
        | some parts => .assignment ⟨String.ofList name, parts⟩
        | none => .malformed

/-- The assignments before the first malformed line. -/
def assignmentsOf : List (Option (List Char)) → List Assignment
  | [] => []
  | none :: _ => []
  | some l :: ls =>
    match LineContent.ofLine l with
    | .assignment a => a :: assignmentsOf ls
    | .nothing => assignmentsOf ls
    | .malformed => []

/-- The bytes of a file without the byte order mark before them. -/
def withoutMark (bytes : List UInt8) : List UInt8 :=
  ([0xef, 0xbb, 0xbf].isPrefixOf? bytes).getD bytes

/-- The assignments of a file. -/
def fileAssignments (content : List UInt8) : List Assignment :=
  assignmentsOf (logicalLines [] .complete (lineTexts (withoutMark content)))

/-- A value with the variables it refers to; an unset one is empty. -/
def Environment.expand (e : Environment) (value : List ValuePart) : String :=
  String.ofList <| value.flatMap fun
    | .char c => [c]
    | .reference name => ((e.text? (String.ofList name)).getD "").toList

/-- Sets each variable that has no text yet, in order, if each can hold what it is given. -/
def Environment.load? (e : Environment) : List Assignment → Option Environment
  | [] => some e
  | a :: rest => (e.setDefault? a.name (e.expand a.value)).bind (·.load? rest)

/-- The environment with the defaults of a file, if there is one. -/
def Environment.withFile? (e : Environment) : (file : Option (List UInt8)) → Option Environment
  | none => some e
  | some content => e.load? (fileAssignments content)

end HostDialing

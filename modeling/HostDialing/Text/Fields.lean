/-!
# Fields

Texts between separators.
-/

namespace HostDialing

/-- The parts of a text between separators. -/
def fields (sep : Char) : List Char → List (List Char)
  | [] => [[]]
  | c :: cs =>
    if c = sep then [] :: fields sep cs
    else match fields sep cs with
      | [] => [[c]]
      | f :: fs => (c :: f) :: fs

/-- Texts with a separator between them. -/
def joined (sep : Char) : List (List Char) → List Char
  | [] => []
  | [cs] => cs
  | cs :: rest => cs ++ sep :: joined sep rest

/-- The text before and behind the last separator. -/
def splitLast (sep : Char) (cs : List Char) : Option (List Char × List Char) :=
  match cs.reverse.span (· ≠ sep) with
  | (_, []) => none
  | (behind, _ :: before) => some (before.reverse, behind.reverse)

end HostDialing

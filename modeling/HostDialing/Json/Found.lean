import HostDialing.Decimal.Shortest
import HostDialing.Text.Quoted

/-!
# What stands in a JSON text

A text is read from left to right and the first problem decides: it is no JSON, or it ends too
early. A reader that wants something else than it finds says what it found.
-/

namespace HostDialing

/-- Why a text is no JSON as far as it was read. -/
inductive JsonFault where
  | malformed
  | ended
deriving DecidableEq

/-- A value as far as a reader looks at it: scalars in full, of lists and objects the kind. -/
inductive JsonFound where
  | word (n : UInt64)
  | negative (n : Nat)
  | float (isNegative : Bool) (magnitude : Binary64)
  | boolean (b : Bool)
  | null
  | text (s : String)
  | sequence
  | map
deriving DecidableEq

/-- Fractions keep a place after the point; from `1e16` up and below `1e-5` there is an exponent,
without leading zeros. -/
def jsonFloat : FloatLayout := ⟨-5, 15⟩

def JsonFound.description : JsonFound → String
  | word n => "integer `" ++ String.ofList (decimal n.toNat) ++ "`"
  | negative n => "integer `-" ++ String.ofList (decimal n) ++ "`"
  | float isNegative b =>
    let digits := if b.isZero then ['0', '.', '0'] else jsonFloat.write b.shortest
    "floating point `" ++ String.ofList (if isNegative then '-' :: digits else digits) ++ "`"
  | boolean b => "boolean `" ++ (if b then "true" else "false") ++ "`"
  | null => "null"
  | text s => "string " ++ quoted s
  | sequence => "sequence"
  | map => "map"

end HostDialing

/-!
# Environments

The variables of a process. A variable is set to text or to bytes that are no text; one of the
second kind counts as unset for all who want text. No variable can be set to a text that holds a
NUL: a program that tries to ends there.
-/

namespace HostDialing

inductive VariableValue where
  | text (s : String)
  | bytes
deriving DecidableEq

/-- Variables with their values; of two entries with one name the first counts. -/
structure Environment where
  values : List (String × VariableValue)

def Environment.text? (e : Environment) (name : String) : Option String :=
  match e.values.lookup name with
  | some (.text s) => some s
  | _ => none

/-- The environment in which a variable holds a text. -/
def Environment.holding (e : Environment) (name value : String) : Environment :=
  ⟨(name, .text value) :: e.values⟩

/-- Sets a variable, if one can hold the text. -/
def Environment.set? (e : Environment) (name value : String) : Option Environment :=
  if '\x00' ∈ value.toList then none else some (e.holding name value)

/-- Sets a variable that has no text yet. -/
def Environment.setDefault? (e : Environment) (name value : String) : Option Environment :=
  if (e.text? name).isSome then some e else e.set? name value

theorem Environment.text?_holding (e : Environment) (name value other : String) :
    (e.holding name value).text? other = if other = name then some value else e.text? other := by
  by_cases h : other = name
  · simp [holding, text?, h]
  · have : (other == name) = false := by simp [h]
    simp [holding, text?, List.lookup_cons, this, h]

theorem Environment.set?_eq_some_iff {e e' : Environment} {name value : String} :
    e.set? name value = some e' ↔ '\x00' ∉ value.toList ∧ e.holding name value = e' := by
  unfold set?
  split <;> simp_all

end HostDialing

import HostDialing.Error

/-!
# Attempts of a dial

Candidates are tried one at a time and in order until one connects. If none does, the first
failure is the dial's own; without a candidate there was no attempt.
-/

namespace HostDialing

/-- The candidates that are left, and the first failure. -/
structure Attempts where
  left : List String
  first : Option IoError

def Attempts.begin (candidates : List String) : Attempts := ⟨candidates, none⟩

/-- The attempts after one that failed. -/
def Attempts.failed (a : Attempts) (e : IoError) : Attempts :=
  ⟨a.left, match a.first with
    | some first => some first
    | none => some e⟩

/-- The error of a dial none of whose attempts connected. -/
def Attempts.error (a : Attempts) (addr : String) : DialError :=
  match a.first with
  | some e => .connect e
  | none => .noAttempts addr

/-- What a dial does next. -/
inductive DialMove where
  | connect (candidate : String) (attempts : Attempts)
  | fail (error : DialError)

/-- Takes the next candidate. A dial that is cancelled takes none. -/
def Attempts.next (a : Attempts) (addr : String) (isCancelled : Bool) : DialMove :=
  match a.left with
  | [] => .fail (a.error addr)
  | c :: rest => if isCancelled then .fail (.cancelled addr) else .connect c ⟨rest, a.first⟩

/-- What opens connections: the network, the address, and a state of its own. -/
abbrev Connector (σ γ : Type) := String → String → σ → Except IoError γ × σ

/-- Tries all candidates, if need be, while nothing else happens. -/
def failover {σ γ : Type} (connect : Connector σ γ) (network addr : String) :
    (left : List String) → (first : Option IoError) → σ → Except DialError γ × σ
  | [], first, w => (.error (Attempts.error ⟨[], first⟩ addr), w)
  | c :: rest, first, w =>
    match connect network c w with
    | (.ok connection, w) => (.ok connection, w)
    | (.error e, w) =>
      failover connect network addr rest (Attempts.failed ⟨rest, first⟩ e).first w

end HostDialing

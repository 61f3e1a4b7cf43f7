import HostDialing.Dial.Target

/-!
# Candidates

The addresses of a host are tried in an order that a strategy gives as positions in the list of
addresses. A position beyond the list is passed over, a repeated one is tried again.
-/

namespace HostDialing

/-- The positions to take from a list of a given length, in order. -/
abbrev CandidateOrder := Nat → List Nat

/-- The addresses at the given positions. -/
def inOrder (addresses : List String) (positions : List Nat) : List String :=
  positions.filterMap (addresses[·]?)

/-- The addresses at the given positions with the port to dial. -/
def candidates (addresses : List String) (positions : List Nat) (port : UInt16) : List String :=
  (inOrder addresses positions).map (joinHostPort · port)

/-- The order of the list itself. -/
def listedOrder : CandidateOrder := List.range

def reverseOrder : CandidateOrder := fun n => (List.range n).reverse

/-- The order that begins `k` places on and comes round. -/
def rotatedOrder (k : Nat) : CandidateOrder := fun n => (List.range n).map fun i => (i + k) % n

end HostDialing

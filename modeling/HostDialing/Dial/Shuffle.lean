/-!
# Shuffling

The Fisher-Yates shuffle: from the last position down to the second, each position changes places
with one at or before it. The choices are given, one for each position; made uniformly and
independently they make every order equally likely.
-/

namespace HostDialing

/-- A list with two of its positions exchanged. -/
def swapAt {α : Type} (l : List α) (i j : Nat) : List α :=
  match l[i]?, l[j]? with
  | some a, some b => (l.set i b).set j a
  | _, _ => l

/-- Shuffles by choices. The first of them is for the position whose number is how many there
are, each further one for the position before. -/
def shuffle {α : Type} (l : List α) : (choices : List Nat) → List α
  | [] => l
  | j :: js => shuffle (swapAt l (js.length + 1) j) js

/-- A source of random words: a counter that moves in odd steps and is scrambled. -/
structure RandomSource where
  state : UInt64

/-- The next word and the source behind it. -/
def RandomSource.next (r : RandomSource) : UInt64 × RandomSource :=
  let s := r.state + 0x9e3779b97f4a7c15
  let z := (s ^^^ (s >>> 30)) * 0xbf58476d1ce4e5b9
  let z := (z ^^^ (z >>> 27)) * 0x94d049bb133111eb
  (z ^^^ (z >>> 31), ⟨s⟩)

/-- Choices for the positions from `n` down to the first after the beginning: each is at most its
position. -/
def RandomSource.choices (r : RandomSource) : (n : Nat) → List Nat × RandomSource
  | 0 => ([], r)
  | n + 1 =>
    let (word, r) := r.next
    let (rest, r) := r.choices n
    (word.toNat % (n + 2) :: rest, r)

/-- A random order of the numbers below `n`. -/
def RandomSource.permutation (r : RandomSource) (n : Nat) : List Nat × RandomSource :=
  let (choices, r) := r.choices (n - 1)
  (shuffle (List.range n) choices, r)

/-- The permutations of `n` numbers drawn one after another. -/
def RandomSource.permutations (r : RandomSource) (n : Nat) : (count : Nat) → List (List Nat)
  | 0 => []
  | count + 1 => let (p, r) := r.permutation n; p :: r.permutations n count

/-- The numbers below `n`, each of them once. -/
def isOrderOf (n : Nat) (l : List Nat) : Bool := l.isPerm (List.range n)

/-- In many drawn orders each number comes first at least six tenths as often as it should. -/
def isFair (n : Nat) (orders : List (List Nat)) : Bool :=
  orders.length < 300 || (List.range n).all fun i =>
    6 * orders.length ≤ 10 * n * orders.countP (·.head? == some i)

end HostDialing

import Mathlib.Data.List.Basic

/-!
# Byte offsets

A text can be cut at a byte offset where a character begins or the text ends, and nowhere else
(`isSome_cutAt?_iff`). The offset at which a character is found in a text is such a place, and so is
the one behind it.
-/

namespace HostDialing

def byteSize (cs : List Char) : Nat := (String.ofList cs).utf8ByteSize

@[simp]
theorem byteSize_nil : byteSize [] = 0 := by
  simp [byteSize]

@[simp]
theorem byteSize_append (a b : List Char) : byteSize (a ++ b) = byteSize a + byteSize b := by
  simp [byteSize, String.ofList_append]

@[simp]
theorem byteSize_cons (c : Char) (cs : List Char) :
    byteSize (c :: cs) = c.utf8Size + byteSize cs := by
  rw [← List.singleton_append, byteSize_append]
  simp [byteSize]

theorem eq_nil_of_byteSize {cs : List Char} (h : byteSize cs = 0) : cs = [] := by
  rcases cs with _ | ⟨c, cs⟩
  · rfl
  · have := c.utf8Size_pos
    rw [byteSize_cons] at h
    omega

/-- The parts of a text before and behind a byte offset. -/
def cutAt? : List Char → Nat → Option (List Char × List Char)
  | cs, 0 => some ([], cs)
  | [], _ + 1 => none
  | c :: cs, n + 1 =>
    if c.utf8Size ≤ n + 1 then (cutAt? cs (n + 1 - c.utf8Size)).map fun (a, b) => (c :: a, b)
    else none

theorem cutAt?_eq_some_iff {cs a b : List Char} {n : Nat} :
    cutAt? cs n = some (a, b) ↔ cs = a ++ b ∧ byteSize a = n := by
  fun_induction cutAt? cs n generalizing a b with
  | case1 cs =>
    constructor
    · intro h
      obtain ⟨rfl, rfl⟩ : [] = a ∧ cs = b := by simpa using h
      simp
    · rintro ⟨rfl, ha⟩
      rw [eq_nil_of_byteSize ha, List.nil_append]
  | case2 n =>
    constructor
    · simp
    · rintro ⟨h, ha⟩
      obtain ⟨rfl, rfl⟩ := List.append_eq_nil_iff.1 h.symm
      simp at ha
  | case3 c cs n h ih =>
    simp only [Option.map_eq_some_iff, Prod.exists, ih, Prod.mk.injEq]
    constructor
    · rintro ⟨a, b, ⟨rfl, ha⟩, rfl, rfl⟩
      refine ⟨rfl, ?_⟩
      rw [byteSize_cons]
      omega
    · rintro ⟨hcs, ha⟩
      rcases a with _ | ⟨d, a⟩
      · simp at ha
      obtain ⟨rfl, rfl⟩ : c = d ∧ cs = a ++ b := by simpa using hcs
      rw [byteSize_cons] at ha
      exact ⟨a, b, ⟨rfl, by omega⟩, rfl, rfl⟩
  | case4 c cs n h =>
    constructor
    · simp
    · rintro ⟨hcs, ha⟩
      rcases a with _ | ⟨d, a⟩
      · simp at ha
      obtain ⟨rfl, -⟩ : c = d ∧ cs = a ++ b := by simpa using hcs
      rw [byteSize_cons] at ha
      omega

/-- A text can be cut where its encoding in bytes lets it be cut. -/
theorem isSome_cutAt?_iff {cs : List Char} {n : Nat} :
    (cutAt? cs n).isSome ↔ String.Pos.Raw.IsValid (String.ofList cs) ⟨n⟩ := by
  rw [String.Pos.Raw.isValid_iff_exists_append, Option.isSome_iff_exists]
  constructor
  · rintro ⟨⟨a, b⟩, h⟩
    obtain ⟨rfl, rfl⟩ := cutAt?_eq_some_iff.1 h
    exact ⟨String.ofList a, String.ofList b, String.ofList_append, rfl⟩
  · rintro ⟨a, b, hs, hn⟩
    refine ⟨(a.toList, b.toList), cutAt?_eq_some_iff.2 ⟨?_, ?_⟩⟩
    · rw [← String.toList_append, ← hs, String.toList_ofList]
    · rw [byteSize, String.ofList_toList]
      exact (congrArg String.Pos.Raw.byteIdx hn).symm

/-- The offset of the first of the characters that are `d`. -/
def offsetOf? (d : Char) : List Char → Option Nat
  | [] => none
  | c :: cs => if c = d then some 0 else (offsetOf? d cs).map (c.utf8Size + ·)

/-- The offset of the last of the characters that are `d`. -/
def lastOffsetOf? (d : Char) : List Char → Option Nat
  | [] => none
  | c :: cs =>
    match lastOffsetOf? d cs with
    | some n => some (c.utf8Size + n)
    | none => if c = d then some 0 else none

theorem offsetOf?_eq_none {d : Char} {cs : List Char} (h : d ∉ cs) : offsetOf? d cs = none := by
  induction cs with
  | nil => rfl
  | cons c cs ih =>
    rw [List.mem_cons, not_or] at h
    rw [offsetOf?, if_neg (Ne.symm h.1), ih h.2, Option.map_none]

theorem offsetOf?_append {d : Char} {a : List Char} (h : d ∉ a) (b : List Char) :
    offsetOf? d (a ++ d :: b) = some (byteSize a) := by
  induction a with
  | nil => simp [offsetOf?]
  | cons c a ih =>
    rw [List.mem_cons, not_or] at h
    rw [List.cons_append, offsetOf?, if_neg (Ne.symm h.1), ih h.2, Option.map_some, byteSize_cons]

theorem lastOffsetOf?_eq_none {d : Char} {cs : List Char} (h : d ∉ cs) :
    lastOffsetOf? d cs = none := by
  induction cs with
  | nil => rfl
  | cons c cs ih =>
    rw [List.mem_cons, not_or] at h
    simp only [lastOffsetOf?, ih h.2, if_neg (Ne.symm h.1)]

theorem lastOffsetOf?_append {d : Char} (a : List Char) {b : List Char} (h : d ∉ b) :
    lastOffsetOf? d (a ++ d :: b) = some (byteSize a) := by
  induction a with
  | nil => simp [lastOffsetOf?, lastOffsetOf?_eq_none h]
  | cons c a ih => simp only [List.cons_append, lastOffsetOf?, ih, byteSize_cons]

/-- A text with a character in it, cut where the character is found last. -/
theorem exists_eq_append_of_mem_last {α : Type} {d : α} {cs : List α} (h : d ∈ cs) :
    ∃ a b, cs = a ++ d :: b ∧ d ∉ b := by
  obtain ⟨b, a, hb, hd⟩ := List.eq_append_cons_of_mem (List.mem_reverse.2 h)
  refine ⟨a.reverse, b.reverse, ?_, fun hm => hd (List.mem_reverse.1 hm)⟩
  rw [← cs.reverse_reverse, hb]
  simp

end HostDialing

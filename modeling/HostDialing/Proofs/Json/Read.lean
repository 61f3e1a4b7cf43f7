import HostDialing.Json.Value
import HostDialing.Proofs.Text.Numerals
import Mathlib.Data.List.TakeDrop

/-!
# Reading what was written

A numeral of at most sixty-four bits is read from JSON as its number, to its last digit and no
further (`readFound_decimal`). A text without quotes, backslashes and control characters is read up
to the quote that closes it (`readText_plain`).
-/

namespace HostDialing

theorem firstChar_cons {c : Char} (h : isJsonBlank c = false) (cs : List Char) :
    firstChar (c :: cs) = .ok (c, cs) := by
  simp [firstChar, skipBlank, h]

theorem isJsonBlank_of_isDigit {c : Char} (h : c.isDigit) : isJsonBlank c = false := by
  by_contra hblank
  simp only [isJsonBlank, Bool.not_eq_false, Bool.or_eq_true, beq_iff_eq] at hblank
  rcases hblank with ((rfl | rfl) | rfl) | rfl <;> exact absurd h (by decide)

/-- A character that stands for itself in a string. -/
def isPlain (c : Char) : Bool := c != '"' && c != '\\' && 0x20 ≤ c.toNat

theorem readText_cons {c : Char} (h : isPlain c) (read cs : List Char) :
    readText read (c :: cs) = readText (c :: read) cs := by
  obtain ⟨⟨hquote, hbackslash⟩, hcontrol⟩ : (c ≠ '"' ∧ c ≠ '\\') ∧ 0x20 ≤ c.toNat := by
    simpa [isPlain] using h
  rw [readText, if_neg (by omega)]
  all_goals simp [hquote, hbackslash]

theorem readText_plain {cs : List Char} (h : cs.all isPlain) (read rest : List Char) :
    readText read (cs ++ '"' :: rest) = .ok (read.reverse ++ cs, rest) := by
  induction cs generalizing read with
  | nil => simp [readText]
  | cons c cs ih =>
    obtain ⟨hc, hcs⟩ := Bool.and_eq_true_iff.1 h
    rw [List.cons_append, readText_cons hc, ih hcs]
    simp

theorem le_ofDigitChars (cs : List Char) (n : Nat) : n ≤ Nat.ofDigitChars 10 cs n := by
  induction cs generalizing n with
  | nil => exact le_rfl
  | cons c cs ih =>
    rw [Nat.ofDigitChars_cons]
    exact le_trans (by omega) (ih _)

/-- All digits fit if the number that they make does. -/
theorem takeWord_append {digits : List Char} (hd : ∀ c ∈ digits, c.isDigit) {n : Nat}
    (hlt : Nat.ofDigitChars 10 digits n < UInt64.size) {rest : List Char}
    (hrest : startsWithDigit rest = false) :
    takeWord n (digits ++ rest) = (Nat.ofDigitChars 10 digits n, rest) := by
  induction digits generalizing n with
  | nil =>
    rcases rest with _ | ⟨c, rest⟩
    · rfl
    · have hc : c.isDigit = false := hrest
      simp [takeWord, hc]
  | cons c digits ih =>
    rw [Nat.ofDigitChars_cons] at hlt
    have hnext := (le_ofDigitChars digits _).trans_lt hlt
    rw [List.cons_append, takeWord, if_pos ⟨hd c List.mem_cons_self, hnext⟩,
      ih (fun c hm => hd c (List.mem_cons_of_mem _ hm)) hlt, Nat.ofDigitChars_cons]

/-- Nothing here continues a number. -/
def EndsNumber (rest : List Char) : Prop :=
  ∀ c ∈ rest.head?, c.isDigit = false ∧ c ≠ '.' ∧ isExponentMark c = false

theorem EndsNumber.startsWithDigit {rest : List Char} (h : EndsNumber rest) :
    startsWithDigit rest = false := by
  rcases rest with _ | ⟨c, rest⟩
  · rfl
  · exact (h c rfl).1

theorem EndsNumber.readTail {rest : List Char} (h : EndsNumber rest) (n : Nat) :
    readTail false n 0 rest = .ok (.word (UInt64.ofNat n), rest) := by
  rcases rest with _ | ⟨c, rest⟩
  · rfl
  · obtain ⟨-, hdot, hmark⟩ := h c rfl
    unfold HostDialing.readTail
    split
    · rename_i heq
      exact absurd (List.cons.inj heq).1 hdot
    · rw [if_pos (by simp [hmark])]
      rfl

theorem EndsNumber.span_eq {rest : List Char} (h : EndsNumber rest) :
    rest.span Char.isDigit = ([], rest) := by
  rcases rest with _ | ⟨c, rest⟩
  · rfl
  · have hc : c.isDigit = false := (h c rfl).1
    simp [List.span_eq_takeWhile_dropWhile, hc]

theorem isOneToNine_of_isDigit {c : Char} (h : c.isDigit) (h0 : c ≠ '0') : isOneToNine c := by
  have hne : c.toNat ≠ 48 := fun heq => h0 (Char.toNat_inj.1 heq)
  simp only [Char.isDigit, Bool.and_eq_true, decide_eq_true_eq, UInt32.le_iff_toNat_le] at h
  simp only [isOneToNine, Bool.and_eq_true, decide_eq_true_eq, Char.le_def, UInt32.le_iff_toNat_le]
  exact ⟨by have := h.1; change 49 ≤ c.toNat; change 48 ≤ c.toNat at this; omega, h.2⟩

theorem readNumber_decimal (n : UInt64) {rest : List Char} (h : EndsNumber rest) :
    readNumber false (decimal n.toNat ++ rest) = .ok (.word n, rest) := by
  by_cases hn : n.toNat = 0
  · obtain rfl : n = 0 := UInt64.toNat_inj.1 hn
    show (if startsWithDigit rest then .error .malformed
      else HostDialing.readTail false 0 0 rest) = _
    rw [h.startsWithDigit, if_neg (by decide), h.readTail]
    rfl
  obtain ⟨hne, hd, hvalue⟩ := digits?_eq_some_iff.1 (digits?_decimal n.toNat)
  have hhead := head?_decimal hn
  have htake := takeWord_append hd (hvalue ▸ n.toNat_lt) h.startsWithDigit
  obtain ⟨c, cs, hcs⟩ := List.exists_cons_of_ne_nil hne
  rw [hcs] at hhead hd
  have hzero : c ≠ '0' := fun hc => hhead (congrArg some hc)
  have hnine := isOneToNine_of_isDigit (hd c List.mem_cons_self) hzero
  rw [hvalue, hcs, List.cons_append] at htake
  rw [hcs, List.cons_append, readNumber, if_neg hzero, if_pos hnine]
  simp only [htake, h.span_eq, List.length_nil, h.readTail, UInt64.ofNat_toNat]

theorem readFound_decimal (n : UInt64) {rest : List Char} (h : EndsNumber rest) :
    readFound (decimal n.toNat ++ rest) = .ok (.word n, rest) := by
  have hread := readNumber_decimal n h
  obtain ⟨c, cs, hcs⟩ := List.exists_cons_of_ne_nil (decimal_ne_nil n.toNat)
  have hdigit : c.isDigit := isDigit_of_mem_decimal (hcs ▸ List.mem_cons_self)
  have hminus : c ≠ '-' := by
    rintro rfl
    exact absurd hdigit (by decide)
  rw [hcs, List.cons_append] at hread ⊢
  rw [readFound, firstChar_cons (isJsonBlank_of_isDigit hdigit)]
  simp only [bind, Except.bind, hminus, hdigit, if_true, if_false, hread]

end HostDialing

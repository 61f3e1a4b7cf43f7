import HostDialing.Text.Numeral
import Mathlib.Data.List.Induction
import Mathlib.Tactic.IntervalCases

/-!
# Numerals

A number reads back from its numeral, in decimal and in hexadecimal. A numeral is as long as the
number needs, and only that of zero begins with a zero.
-/

namespace HostDialing

theorem digits?_eq_some_iff {cs : List Char} {n : Nat} :
    digits? cs = some n ↔ cs ≠ [] ∧ (∀ c ∈ cs, c.isDigit) ∧ Nat.ofDigitChars 10 cs 0 = n := by
  simp only [digits?, List.all_eq_true]
  split_ifs with h
  · rw [Option.some_inj, and_iff_right h.1, and_iff_right h.2]
  · exact iff_of_false (by simp) fun h' => h ⟨h'.1, h'.2.1⟩

theorem unsigned?_eq_some_iff {cs : List Char} {n : Nat} :
    unsigned? cs = some n
      ↔ ∃ digits, (cs = digits ∨ cs = '+' :: digits) ∧ digits? digits = some n := by
  constructor
  · intro h
    unfold unsigned? at h
    split at h
    · exact ⟨_, .inr rfl, h⟩
    · exact ⟨_, .inl rfl, h⟩
  · rintro ⟨digits, rfl | rfl, h⟩
    · unfold unsigned?
      split
      · have := (digits?_eq_some_iff.1 h).2.1 '+' List.mem_cons_self
        exact absurd this (by decide)
      · exact h
    · exact h

theorem isDigit_of_mem_decimal {n : Nat} {c : Char} (h : c ∈ decimal n) : c.isDigit :=
  Nat.isDigit_of_mem_toDigits (by decide) (by decide) h

theorem decimal_ne_nil (n : Nat) : decimal n ≠ [] := Nat.toDigits_ne_nil

theorem head?_decimal {n : Nat} (h : n ≠ 0) : (decimal n).head? ≠ some '0' := by
  induction n using Nat.strongRecOn with
  | ind n ih =>
    rw [decimal, Nat.toDigits_eq_if (by decide)]
    split
    · simp [h]
    · obtain ⟨c, cs, hcs⟩ := List.exists_cons_of_ne_nil (decimal_ne_nil (n / 10))
      have hhead := ih (n / 10) (by omega) (by omega)
      rw [hcs] at hhead
      rw [← decimal, hcs]
      exact hhead

theorem ofDigitChars_zeros (zeros n : Nat) :
    Nat.ofDigitChars 10 (List.replicate zeros '0' ++ decimal n) 0 = n := by
  rw [Nat.ofDigitChars_append, Nat.ofDigitChars_replicate_zero, Nat.mul_zero, decimal,
    Nat.ofDigitChars_ten_toDigits]

theorem isDigit_of_mem_zeros {zeros n : Nat} {c : Char}
    (h : c ∈ List.replicate zeros '0' ++ decimal n) : c.isDigit := by
  rcases List.mem_append.1 h with h | h
  · rw [List.eq_of_mem_replicate h]
    rfl
  · exact isDigit_of_mem_decimal h

theorem hexDigit?_digitChar {n : Nat} (h : n < 16) : hexDigit? n.digitChar = some n := by
  interval_cases n <;> rfl

theorem hexDigits?_concat (cs : List Char) (c : Char) :
    hexDigits? (cs ++ [c])
      = (hexDigits? cs).bind fun n => (hexDigit? c).map (16 * n + ·) := by
  rw [hexDigits?, List.foldlM_append]
  simp only [List.foldlM_cons, List.foldlM_nil, bind_pure]
  rfl

theorem hexDigits?_hexadecimal (n : Nat) : hexDigits? (hexadecimal n) = some n := by
  induction n using Nat.strongRecOn with
  | ind n ih =>
    rw [hexadecimal, Nat.toDigits_eq_if (by decide)]
    split
    · rename_i hlt
      rw [← List.nil_append [n.digitChar], hexDigits?_concat, hexDigit?_digitChar hlt]
      simp [hexDigits?]
    · have hmod : n % 16 < 16 := Nat.mod_lt _ (by decide)
      rw [← hexadecimal, hexDigits?_concat, ih (n / 16) (by omega), hexDigit?_digitChar hmod]
      simp [Nat.div_add_mod]

theorem isSome_hexDigit?_of_hexDigits? {cs : List Char} (h : (hexDigits? cs).isSome) {c : Char}
    (hc : c ∈ cs) : (hexDigit? c).isSome := by
  induction cs using List.reverseRecOn with
  | nil => cases hc
  | append_singleton cs d ih =>
    rw [hexDigits?_concat] at h
    obtain ⟨m, hm⟩ := Option.isSome_iff_exists.1 h
    obtain ⟨n, hn, hd⟩ := Option.bind_eq_some_iff.1 hm
    obtain ⟨k, hk, -⟩ := Option.map_eq_some_iff.1 hd
    rcases List.mem_append.1 hc with hm | hm
    · exact ih (by simp [hn]) hm
    · simp [List.mem_singleton.1 hm, hk]

theorem hexadecimal_ne_nil (n : Nat) : hexadecimal n ≠ [] := Nat.toDigits_ne_nil

theorem colon_notMem_hexadecimal (n : Nat) : ':' ∉ hexadecimal n := by
  intro h
  have := isSome_hexDigit?_of_hexDigits? (by simp [hexDigits?_hexadecimal n]) h
  simp [hexDigit?] at this

end HostDialing

import HostDialing.Proofs.Text.Numerals
import HostDialing.Settings.Env
import Mathlib.Data.List.TakeWhile

/-!
# Numbers in variables

The texts that stand for a number in a variable: its numeral, with any zeros before it, behind an
optional plus sign, and white space around all of it (`settingNumber?_eq_some_iff`).
-/

namespace HostDialing

/-- What trimming takes away is white space. -/
theorem exists_trim (cs : List Char) : ∃ before behind, cs = before ++ trim cs ++ behind
    ∧ (∀ c ∈ before, isWhiteSpace c) ∧ ∀ c ∈ behind, isWhiteSpace c := by
  refine ⟨cs.takeWhile isWhiteSpace, ((trimStart cs).reverse.takeWhile isWhiteSpace).reverse, ?_,
    fun c hc => List.mem_takeWhile_imp hc,
    fun c hc => List.mem_takeWhile_imp (List.mem_reverse.1 hc)⟩
  rw [List.append_assoc, trim, trimEnd, ← List.reverse_append, List.takeWhile_append_dropWhile,
    List.reverse_reverse, trimStart, List.takeWhile_append_dropWhile]

theorem trimStart_append {before body : List Char} (hbefore : ∀ c ∈ before, isWhiteSpace c)
    (hhead : ∀ c ∈ body.head?, isWhiteSpace c = false) : trimStart (before ++ body) = body := by
  rw [trimStart, List.dropWhile_append_of_pos hbefore]
  rcases body with _ | ⟨c, cs⟩
  · rfl
  · exact List.dropWhile_cons_of_neg (by simp [hhead c rfl])

theorem trim_append {before body behind : List Char} (hbefore : ∀ c ∈ before, isWhiteSpace c)
    (hbehind : ∀ c ∈ behind, isWhiteSpace c) (hne : body ≠ [])
    (hhead : ∀ c ∈ body.head?, isWhiteSpace c = false)
    (hlast : ∀ c ∈ body.getLast?, isWhiteSpace c = false) :
    trim (before ++ body ++ behind) = body := by
  have hstart : trimStart (before ++ (body ++ behind)) = body ++ behind :=
    trimStart_append hbefore (by
      obtain ⟨c, cs, rfl⟩ := List.exists_cons_of_ne_nil hne
      exact hhead)
  have hend : trimStart (behind.reverse ++ body.reverse) = body.reverse :=
    trimStart_append (by simpa using hbehind) (by simpa using hlast)
  rw [trimStart] at hend
  rw [List.append_assoc, trim, hstart, trimEnd, List.reverse_append, hend, List.reverse_reverse]

theorem exists_digitChar {c : Char} (h : c.isDigit) : ∃ d < 10, c = d.digitChar := by
  simp only [Char.isDigit, Bool.and_eq_true, decide_eq_true_eq, UInt32.le_iff_toNat_le] at h
  change 48 ≤ c.toNat ∧ c.toNat ≤ 57 at h
  have hlt : c.toNat - 48 < 10 := by omega
  refine ⟨c.toNat - 48, hlt, Char.toNat_inj.1 ?_⟩
  rw [Nat.toNat_digitChar_of_lt_ten hlt]
  omega

/-- Digits are zeros and the numeral of what they denote. -/
theorem digits_eq {cs : List Char} (hne : cs ≠ []) (hd : ∀ c ∈ cs, c.isDigit) :
    ∃ zeros, cs = List.replicate zeros '0' ++ decimal (Nat.ofDigitChars 10 cs 0) := by
  induction cs using List.reverseRecOn with
  | nil => exact absurd rfl hne
  | append_singleton cs c ih =>
    obtain ⟨d, hlt, rfl⟩ := exists_digitChar (hd c (by simp))
    have hvalue : Nat.ofDigitChars 10 (cs ++ [d.digitChar]) 0
        = 10 * Nat.ofDigitChars 10 cs 0 + d := by
      rw [Nat.ofDigitChars_append, Nat.ofDigitChars_cons_digitChar_of_lt_ten hlt,
        Nat.ofDigitChars_nil]
    by_cases hcs : cs = []
    · refine ⟨0, ?_⟩
      rw [hvalue, hcs, Nat.ofDigitChars_nil, Nat.mul_zero, Nat.zero_add, decimal,
        Nat.toDigits_of_lt_base hlt]
      rfl
    obtain ⟨zeros, hzeros⟩ := ih hcs fun c hm => hd c (List.mem_append_left _ hm)
    rw [hvalue]
    set v := Nat.ofDigitChars 10 cs 0
    by_cases hv : v = 0
    · refine ⟨zeros + 1, ?_⟩
      rw [hzeros, hv, decimal, decimal, Nat.mul_zero, Nat.zero_add, Nat.toDigits_of_lt_base hlt,
        List.replicate_succ']
      rfl
    · refine ⟨zeros, ?_⟩
      rw [decimal, ← Nat.toDigits_append_toDigits (by decide) (by omega) hlt,
        Nat.toDigits_of_lt_base hlt, ← List.append_assoc, ← decimal, ← hzeros]

/-- A number as a variable may hold it. -/
def NumberText (n : UInt64) (cs : List Char) : Prop :=
  ∃ before sign zeros behind,
    cs = before ++ (sign ++ List.replicate zeros '0' ++ decimal n.toNat) ++ behind
    ∧ (∀ c ∈ before, isWhiteSpace c) ∧ (∀ c ∈ behind, isWhiteSpace c) ∧ (sign = [] ∨ sign = ['+'])

theorem word?_eq_some_iff {cs : List Char} {n : UInt64} :
    word? cs = some n ↔ unsigned? cs = some n.toNat := by
  rw [word?, Option.bind_eq_some_iff]
  constructor
  · rintro ⟨m, hm, h⟩
    split_ifs at h with hlt
    rw [hm, ← Option.some_inj.1 h, UInt64.toNat_ofNatLT]
  · intro h
    refine ⟨n.toNat, h, ?_⟩
    rw [dif_pos n.toNat_lt, UInt64.ofNatLT_toNat]

theorem isWhiteSpace_of_isDigit {c : Char} (h : c.isDigit) : isWhiteSpace c = false := by
  obtain ⟨d, hd, rfl⟩ := exists_digitChar h
  interval_cases d <;> rfl

/-- A sign and digits that denote a number. -/
theorem unsigned?_zeros {sign : List Char} (hsign : sign = [] ∨ sign = ['+']) (zeros n : Nat) :
    unsigned? (sign ++ List.replicate zeros '0' ++ decimal n) = some n := by
  refine unsigned?_eq_some_iff.2 ⟨List.replicate zeros '0' ++ decimal n, ?_, ?_⟩
  · rcases hsign with rfl | rfl
    · exact .inl rfl
    · exact .inr rfl
  exact digits?_eq_some_iff.2
    ⟨by simp [decimal_ne_nil], fun c hc => isDigit_of_mem_zeros hc, ofDigitChars_zeros _ _⟩

theorem settingNumber?_eq_some_iff {value : String} {n : UInt64} :
    settingNumber? value = some n ↔ NumberText n value.toList := by
  rw [settingNumber?, word?_eq_some_iff]
  constructor
  · intro h
    obtain ⟨before, behind, hcs, hbefore, hbehind⟩ := exists_trim value.toList
    obtain ⟨digits, hdigits, hn⟩ := unsigned?_eq_some_iff.1 h
    obtain ⟨hne, hd, hvalue⟩ := digits?_eq_some_iff.1 hn
    obtain ⟨zeros, hzeros⟩ := digits_eq hne hd
    rw [hvalue] at hzeros
    rcases hdigits with htrim | htrim
    · exact ⟨before, [], zeros, behind, by rw [List.nil_append, ← hzeros, ← htrim, ← hcs],
        hbefore, hbehind, .inl rfl⟩
    · refine ⟨before, ['+'], zeros, behind, ?_, hbefore, hbehind, .inr rfl⟩
      rw [List.append_assoc ['+'], ← hzeros, List.singleton_append, ← htrim, ← hcs]
  · rintro ⟨before, sign, zeros, behind, hcs, hbefore, hbehind, hsign⟩
    have hbody : ∀ c ∈ sign ++ List.replicate zeros '0' ++ decimal n.toNat,
        isWhiteSpace c = false := by
      intro c hc
      rw [List.append_assoc, List.mem_append] at hc
      rcases hc with hc | hc
      · rcases hsign with rfl | rfl
        · cases hc
        · rw [List.mem_singleton.1 hc]
          rfl
      · exact isWhiteSpace_of_isDigit (isDigit_of_mem_zeros hc)
    rw [hcs, trim_append hbefore hbehind (by simp [decimal_ne_nil])
      (fun c hc => hbody c (List.mem_of_mem_head? hc))
      fun c hc => hbody c (List.mem_of_getLast? hc)]
    exact unsigned?_zeros hsign zeros n.toNat

end HostDialing

/-!
# UTF-8

The bytes of a text, and the text that bytes stand for. A line break is a byte of its own, which is
part of no other character.
-/

namespace HostDialing

/-- The bytes of a text. -/
def utf8Bytes (cs : List Char) : List UInt8 := cs.flatMap String.utf8EncodeChar

/-- The text that bytes stand for, if they stand for one. -/
def utf8Text? (bytes : List UInt8) : Option (List Char) :=
  (String.fromUTF8? bytes.toByteArray).map String.toList

theorem utf8Text?_utf8Bytes (cs : List Char) : utf8Text? (utf8Bytes cs) = some cs := by
  have hbytes : (utf8Bytes cs).toByteArray = (String.ofList cs).toByteArray := rfl
  rw [utf8Text?, hbytes, String.fromUTF8?, dif_pos (String.isValidUTF8 _), Option.map_some]
  exact congrArg some String.toList_ofList

theorem utf8Bytes_append (cs ds : List Char) :
    utf8Bytes (cs ++ ds) = utf8Bytes cs ++ utf8Bytes ds :=
  List.flatMap_append

theorem or_ne_lineBreak {b mark : UInt8} (h : mark.toNat.testBit 7) : b ||| mark ≠ 0x0a := by
  intro he
  have hbit := congrArg (·.toNat.testBit 7) he
  simp only [UInt8.toNat_or, Nat.testBit_or, h, Bool.or_true] at hbit
  exact absurd hbit (by decide)

theorem eq_of_lineBreak_mem {c : Char} (h : 0x0a ∈ String.utf8EncodeChar c) : c = '\n' := by
  rcases Char.utf8Size_eq c with hsize | hsize | hsize | hsize
  · rw [String.utf8EncodeChar_eq_singleton hsize, List.mem_singleton] at h
    have hle := UInt32.le_iff_toNat_le.1 (Char.utf8Size_eq_one_iff.1 hsize)
    have htoNat := congrArg UInt8.toNat h
    rw [UInt32.toNat_toUInt8, Nat.mod_eq_of_lt (Nat.lt_of_le_of_lt hle (by decide))] at htoNat
    exact Char.ext (UInt32.toNat_inj.1 htoNat.symm)
  · simp only [String.utf8EncodeChar_eq_cons_cons hsize, List.mem_cons, List.not_mem_nil,
      or_false] at h
    rcases h with h | h <;> exact absurd h.symm (or_ne_lineBreak (by decide))
  · simp only [String.utf8EncodeChar_eq_cons_cons_cons hsize, List.mem_cons, List.not_mem_nil,
      or_false] at h
    rcases h with h | h | h <;> exact absurd h.symm (or_ne_lineBreak (by decide))
  · simp only [String.utf8EncodeChar_eq_cons_cons_cons_cons hsize, List.mem_cons,
      List.not_mem_nil, or_false] at h
    rcases h with h | h | h | h <;> exact absurd h.symm (or_ne_lineBreak (by decide))

theorem lineBreak_notMem_utf8Bytes {cs : List Char} (h : '\n' ∉ cs) : 0x0a ∉ utf8Bytes cs := by
  rw [utf8Bytes, List.mem_flatMap]
  rintro ⟨c, hc, hm⟩
  exact h (eq_of_lineBreak_mem hm ▸ hc)

end HostDialing

import HostDialing.Text.Fields
import Mathlib.Data.List.Basic

/-!
# Fields

A text is its fields with the separator between them. Fields that do not hold the separator are
found again in the text they are joined to.
-/

namespace HostDialing

variable {sep : Char}

theorem fields_ne_nil (sep : Char) (cs : List Char) : fields sep cs ≠ [] := by
  fun_induction fields sep cs with simp

theorem fields_of_notMem {f : List Char} (h : sep ∉ f) : fields sep f = [f] := by
  induction f with
  | nil => rfl
  | cons c f ih =>
    obtain ⟨hc, hf⟩ := not_or.1 (List.mem_cons.not.1 h)
    rw [fields, if_neg (Ne.symm hc), ih hf]

/-- The first field ends at the first separator. -/
theorem fields_append {f : List Char} (h : sep ∉ f) (cs : List Char) :
    fields sep (f ++ sep :: cs) = f :: fields sep cs := by
  induction f with
  | nil => simp [fields]
  | cons c f ih =>
    obtain ⟨hc, hf⟩ := not_or.1 (List.mem_cons.not.1 h)
    rw [List.cons_append, fields, if_neg (Ne.symm hc), ih hf]

theorem joined_cons {f : List Char} {fs : List (List Char)} (hne : fs ≠ []) :
    joined sep (f :: fs) = f ++ sep :: joined sep fs := by
  obtain ⟨g, gs, rfl⟩ := List.exists_cons_of_ne_nil hne
  rfl

theorem fields_joined {fs : List (List Char)} (hne : fs ≠ []) (h : ∀ f ∈ fs, sep ∉ f) :
    fields sep (joined sep fs) = fs := by
  induction fs with
  | nil => exact absurd rfl hne
  | cons f fs ih =>
    have hf := h f List.mem_cons_self
    rcases fs with _ | ⟨g, gs⟩
    · exact fields_of_notMem hf
    · rw [joined_cons (List.cons_ne_nil _ _), fields_append hf,
        ih (List.cons_ne_nil _ _) fun f hm => h f (List.mem_cons_of_mem _ hm)]

theorem joined_fields (sep : Char) (cs : List Char) : joined sep (fields sep cs) = cs := by
  induction cs with
  | nil => rfl
  | cons c cs ih =>
    by_cases hc : c = sep
    · rw [fields, if_pos hc, joined_cons (fields_ne_nil sep cs), ih, hc, List.nil_append]
    · obtain ⟨f, fs, hfs⟩ := List.exists_cons_of_ne_nil (fields_ne_nil sep cs)
      rw [hfs] at ih
      rw [fields, if_neg hc, hfs, ← ih]
      rcases fs with _ | ⟨g, gs⟩ <;> rfl

theorem mem_joined {c : Char} {fs : List (List Char)} (h : c ∈ joined sep fs) :
    c = sep ∨ ∃ f ∈ fs, c ∈ f := by
  induction fs with
  | nil => cases h
  | cons f fs ih =>
    rcases fs with _ | ⟨g, gs⟩
    · exact .inr ⟨f, List.mem_cons_self, h⟩
    · rw [joined_cons (List.cons_ne_nil _ _), List.mem_append, List.mem_cons] at h
      rcases h with hf | rfl | hrest
      · exact .inr ⟨f, List.mem_cons_self, hf⟩
      · exact .inl rfl
      · exact (ih hrest).imp_right fun ⟨f, hm, hc⟩ => ⟨f, List.mem_cons_of_mem _ hm, hc⟩

/-- Every other character of a text is in one of its fields. -/
theorem mem_fields (sep : Char) {c : Char} {cs : List Char} (h : c ∈ cs) (hc : c ≠ sep) :
    ∃ f ∈ fields sep cs, c ∈ f := by
  rw [← joined_fields sep cs] at h
  exact (mem_joined h).resolve_left hc

end HostDialing

import HostDialing.Environment.File
import Mathlib.Tactic.SplitIfs

/-!
# Defaults of an environment

Assignments are taken in order, each in the environment that those before it have made, and only
where a variable has no text yet. So of all assignments of a variable the first alone can give it a
text (`Environment.text?_load`), and none does where it has one. The program ends at the first
assignment, if there is one, that would give a variable a text with a NUL
(`Environment.load?_eq_none_iff`).
-/

namespace HostDialing

/-- The text that the first assignment of a variable gives it, taken where it stands. -/
def Environment.assigned? (e : Environment) (name : String) : List Assignment → Option String
  | [] => none
  | a :: rest =>
    if a.name = name then some (e.expand a.value)
    else (e.setDefault? a.name (e.expand a.value)).bind (·.assigned? name rest)

/-- The value refers to no variable. -/
def Assignment.IsPlain (a : Assignment) : Prop := ∃ text : String, a.value = text.toList.map .char

/-- The environment in which a variable holds a text, if it had none. -/
def Environment.orHolding (e : Environment) (name value : String) : Environment :=
  if (e.text? name).isSome then e else e.holding name value

theorem Environment.text?_orHolding (e : Environment) (name value other : String) :
    (e.orHolding name value).text? other
      = (e.text? other).or (if name = other then some value else none) := by
  unfold orHolding
  split_ifs with hset hname hname
  · subst hname
    obtain ⟨old, hold⟩ := Option.isSome_iff_exists.1 hset
    rw [hold, Option.some_or]
  · rw [Option.or_none]
  · subst hname
    rw [text?_holding, if_pos rfl, Option.not_isSome_iff_eq_none.1 hset, Option.none_or]
  · rw [text?_holding, if_neg (Ne.symm hname), Option.or_none]

section set

variable {e e' : Environment} {name value : String}

theorem Environment.text?_setDefault (h : e.setDefault? name value = some e') (other : String) :
    e'.text? other = (e.text? other).or (if name = other then some value else none) := by
  have he' : e' = e.orHolding name value := by
    unfold setDefault? at h
    unfold orHolding
    split_ifs at h ⊢
    · exact (Option.some.inj h).symm
    · exact (set?_eq_some_iff.1 h).2.symm
  rw [he', text?_orHolding]

theorem Environment.setDefault?_of_isSome (h : (e.text? name).isSome) (value : String) :
    e.setDefault? name value = some e := if_pos h

theorem Environment.setDefault?_eq_none_iff :
    e.setDefault? name value = none ↔ e.text? name = none ∧ '\x00' ∈ value.toList := by
  unfold setDefault? set?
  split_ifs with hset hnul
  · exact iff_of_false (by simp) fun h => by simp [h.1] at hset
  · exact iff_of_true rfl ⟨Option.not_isSome_iff_eq_none.1 hset, hnul⟩
  · exact iff_of_false (by simp) fun h => hnul h.2

end set

theorem Environment.load?_append (e : Environment) (before after : List Assignment) :
    e.load? (before ++ after) = (e.load? before).bind (·.load? after) := by
  induction before generalizing e with
  | nil => rfl
  | cons a before ih =>
    rw [List.cons_append, load?, load?, Option.bind_assoc]
    exact congrArg _ (funext fun e' => ih e')

/-- A variable with a text keeps it, another takes what its first assignment gives. -/
theorem Environment.text?_load {e e' : Environment} {assignments : List Assignment}
    (h : e.load? assignments = some e') (name : String) :
    e'.text? name = (e.text? name).or (e.assigned? name assignments) := by
  induction assignments generalizing e with
  | nil =>
    obtain rfl := Option.some.inj h
    rw [assigned?, Option.or_none]
  | cons a rest ih =>
    obtain ⟨e₁, hset, hrest⟩ := Option.bind_eq_some_iff.1 h
    rw [ih hrest, text?_setDefault hset, assigned?, hset]
    split_ifs
    · cases e.text? name <;> rfl
    · rw [Option.or_none]
      rfl

/-- Behind its assignment a variable has a text. -/
theorem Environment.isSome_text?_of_mem {e e' : Environment} {assignments : List Assignment}
    (h : e.load? assignments = some e') {a : Assignment} (ha : a ∈ assignments) :
    (e'.text? a.name).isSome := by
  induction assignments generalizing e with
  | nil => cases ha
  | cons b rest ih =>
    obtain ⟨e₁, hset, hrest⟩ := Option.bind_eq_some_iff.1 h
    rcases List.mem_cons.1 ha with rfl | ha
    · rw [text?_load hrest, text?_setDefault hset, if_pos rfl]
      cases e.text? a.name <;> rfl
    · exact ih hrest ha

/-- An assignment of a variable with a text does nothing, where it stands. -/
theorem Environment.load?_of_isSome {e : Environment} {before : List Assignment} {a : Assignment}
    (h : (e.text? a.name).isSome ∨ ∃ b ∈ before, b.name = a.name) (after : List Assignment) :
    e.load? (before ++ a :: after) = e.load? (before ++ after) := by
  rw [load?_append, load?_append]
  refine Option.bind_congr fun e' he' => ?_
  have hset : (e'.text? a.name).isSome := by
    rcases h with h | ⟨b, hb, hname⟩
    · obtain ⟨old, hold⟩ := Option.isSome_iff_exists.1 h
      rw [text?_load he', hold, Option.some_or, Option.isSome_some]
    · exact hname ▸ isSome_text?_of_mem he' hb
  rw [load?, setDefault?_of_isSome hset, Option.bind_some]

/-- The program ends where a variable without text is given one with a NUL. -/
theorem Environment.load?_eq_none_iff {e : Environment} {assignments : List Assignment} :
    e.load? assignments = none ↔ ∃ before a after e', assignments = before ++ a :: after
      ∧ e.load? before = some e' ∧ e'.text? a.name = none
      ∧ '\x00' ∈ (e'.expand a.value).toList := by
  constructor
  · intro h
    induction assignments generalizing e with
    | nil => cases h
    | cons a rest ih =>
      rcases hset : e.setDefault? a.name (e.expand a.value) with _ | e₁
      · obtain ⟨hunset, hnul⟩ := setDefault?_eq_none_iff.1 hset
        exact ⟨[], a, rest, e, rfl, rfl, hunset, hnul⟩
      · rw [load?, hset, Option.bind_some] at h
        obtain ⟨before, b, after, e', rfl, hbefore, hb⟩ := ih h
        exact ⟨a :: before, b, after, e', rfl, by rw [load?, hset, Option.bind_some, hbefore], hb⟩
  · rintro ⟨before, a, after, e', rfl, hbefore, hunset, hnul⟩
    rw [load?_append, hbefore, Option.bind_some, load?,
      setDefault?_eq_none_iff.2 ⟨hunset, hnul⟩, Option.bind_none]

theorem Environment.assigned?_of_forall_ne {e : Environment} {name : String}
    {assignments : List Assignment} (h : ∀ a ∈ assignments, a.name ≠ name) :
    e.assigned? name assignments = none := by
  induction assignments generalizing e with
  | nil => rfl
  | cons a rest ih =>
    rw [assigned?, if_neg (h a List.mem_cons_self)]
    exact Option.bind_eq_none_iff.2 fun e' _ => ih fun b hb => h b (List.mem_cons_of_mem _ hb)

/-- A value that refers to variables has their texts behind the assignments before it. -/
theorem Environment.assigned?_append {e : Environment} {name : String} {before : List Assignment}
    (h : ∀ b ∈ before, b.name ≠ name) (a : Assignment) (ha : a.name = name)
    (rest : List Assignment) :
    e.assigned? name (before ++ a :: rest) = (e.load? before).map (·.expand a.value) := by
  induction before generalizing e with
  | nil => simp [assigned?, ha, load?]
  | cons b before ih =>
    rw [List.cons_append, assigned?, if_neg (h b List.mem_cons_self), load?, Option.map_bind]
    exact Option.bind_congr fun e' _ => ih fun c hc => h c (List.mem_cons_of_mem _ hc)

/-- A value that refers to no variable is the same in every environment. -/
theorem Environment.expand_plain (e : Environment) (text : String) :
    e.expand (text.toList.map .char) = text := by
  rw [expand, List.flatMap_map, List.flatMap_singleton', String.ofList_toList]

/-- Where no value refers to a variable, the first assignments and the texts there are before decide
whether the program ends. -/
theorem Environment.load?_eq_none_iff_of_plain {e : Environment} {assignments : List Assignment}
    (h : ∀ a ∈ assignments, a.IsPlain) :
    e.load? assignments = none ↔ ∃ a, ∃ text : String, e.text? a.name = none
      ∧ assignments.find? (·.name = a.name) = some a ∧ a.value = text.toList.map .char
      ∧ '\x00' ∈ text.toList := by
  constructor
  · intro hload
    obtain ⟨before, a, after, e', rfl, hbefore, hunset, hnul⟩ := load?_eq_none_iff.1 hload
    obtain ⟨text, htext⟩ := h a (by simp)
    rw [htext, expand_plain] at hnul
    have hfirst : ∀ b ∈ before, b.name ≠ a.name := by
      intro b hb hname
      simpa [hname, hunset] using isSome_text?_of_mem hbefore hb
    rw [text?_load hbefore, Option.or_eq_none_iff] at hunset
    refine ⟨a, text, hunset.1, List.find?_eq_some_iff_append.2 ?_, htext, hnul⟩
    exact ⟨by simp, before, after, rfl, by simpa using hfirst⟩
  · rintro ⟨a, text, hunset, hfind, htext, hnul⟩
    obtain ⟨-, before, after, rfl, hfirst⟩ := List.find?_eq_some_iff_append.1 hfind
    rcases hbefore : e.load? before with _ | e'
    · rw [load?_append, hbefore, Option.bind_none]
    · refine load?_eq_none_iff.2 ⟨before, a, after, e', rfl, hbefore, ?_, ?_⟩
      · rw [text?_load hbefore, hunset, assigned?_of_forall_ne (by simpa using hfirst),
          Option.none_or]
      · rwa [htext, expand_plain]

end HostDialing

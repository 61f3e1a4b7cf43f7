import HostDialing.Proofs.Dial.Order
import Mathlib.Data.List.Permutation
import Mathlib.Data.Nat.Factorial.BigOperators
import Mathlib.Probability.Distributions.Uniform

/-!
# Fair shuffles

A shuffle makes a choice for each position but the first, from the last of them down, and the choice
for a position is at most that position. Every order comes from one sequence of such choices and
from no other (`existsUnique_choices`): the entry that ends up last tells the first choice, and the
entries before it are shuffled by the others alone.

So uniform and independent choices make every order equally likely (`drawnOrder_eq_uniform`), and
every entry equally likely to come first (`drawnOrder_first`).
-/

namespace HostDialing

open scoped ENNReal Nat

variable {α : Type}

/-- The positions for which a shuffle of `n` entries makes choices, in its order. -/
def shuffledPositions (n : Nat) : List Nat := (List.range' 1 (n - 1)).reverse

/-- A choice for each of the positions, at most that position. -/
def AreChoices (positions choices : List Nat) : Prop := List.Forall₂ (· ≤ ·) choices positions

/-- Choices for positions that are uniform and independent. -/
noncomputable def drawnChoices : (positions : List Nat) → PMF (List Nat)
  | [] => PMF.pure []
  | i :: is =>
    (PMF.uniformOfFinset (Finset.range (i + 1)) Finset.nonempty_range_add_one).bind fun j =>
      (drawnChoices is).map (j :: ·)

/-- The order that drawn choices give the numbers below `n`. -/
noncomputable def drawnOrder (n : Nat) : PMF (List Nat) :=
  (drawnChoices (shuffledPositions n)).map (shuffle (List.range n))

theorem shuffledPositions_succ (n : Nat) :
    shuffledPositions (n + 2) = (n + 1) :: shuffledPositions (n + 1) := by
  have hrange : List.range' 1 (n + 1) = List.range' 1 n ++ [n + 1] := by
    rw [List.range'_concat, Nat.one_mul, Nat.add_comm 1]
  simp [shuffledPositions, hrange]

theorem length_shuffledPositions (n : Nat) : (shuffledPositions n).length = n - 1 := by
  simp [shuffledPositions]

theorem swapAt_append {l : List α} {i j : Nat} (hi : i < l.length) (hj : j < l.length)
    (tail : List α) : swapAt (l ++ tail) i j = swapAt l i j ++ tail := by
  simp [swapAt, List.getElem?_append_left hi, List.getElem?_append_left hj, hi, hj]

/-- What is chosen for the last position comes to stand there. -/
theorem exists_swapAt_last {l : List α} {n j : Nat} (hn : l.length = n + 1) (hj : j < l.length) :
    ∃ rest, swapAt l n j = rest ++ [l[j]] ∧ rest.length = n := by
  have hlength : (swapAt l n j).length = n + 1 := (swapAt_perm l n j).length_eq.trans hn
  have hlast : (swapAt l n j)[n]? = some l[j] := by
    have hlt : n < l.length := by omega
    simp only [swapAt, List.getElem?_eq_getElem hlt, List.getElem?_eq_getElem hj,
      List.getElem?_set, List.length_set, hlt, if_true]
    split <;> simp_all
  rcases List.eq_nil_or_concat (swapAt l n j) with hnil | ⟨rest, x, hconcat⟩
  · simp [hnil] at hlength
  · rw [hconcat, List.concat_eq_append] at hlength hlast ⊢
    have hrest : rest.length = n := by simpa using hlength
    obtain rfl : x = l[j] := by simpa [← hrest] using hlast
    exact ⟨rest, rfl, hrest⟩

/-- Choices for the entries of a list leave what stands behind it alone. -/
theorem shuffle_append {l : List α} {choices : List Nat}
    (h : AreChoices (shuffledPositions l.length) choices) (tail : List α) :
    shuffle (l ++ tail) choices = shuffle l choices ++ tail := by
  generalize hn : l.length = n at h
  induction n using Nat.twoStepInduction generalizing l choices tail with
  | zero | one =>
    obtain rfl : choices = [] := by simpa [AreChoices, shuffledPositions] using h
    rfl
  | more n _ ih =>
    rw [shuffledPositions_succ] at h
    obtain ⟨j, js, hj, hjs, rfl⟩ := List.forall₂_cons_right_iff.1 h
    have hlength : js.length = n := by
      rw [hjs.length_eq, length_shuffledPositions, Nat.add_sub_cancel]
    have hlt : n + 1 < l.length := by omega
    have hjlt : j < l.length := by omega
    obtain ⟨rest, hswap, hrest⟩ := exists_swapAt_last hn hjlt
    rw [shuffle, shuffle, hlength, swapAt_append hlt hjlt, hswap, List.append_assoc,
      ih _ hrest hjs, ih _ hrest hjs, List.append_assoc]

/-- The first choice takes out the entry that ends up last; the others shuffle what it leaves. -/
theorem exists_shuffle_cons {l : List α} {n j : Nat} (hn : l.length = n + 2) (hj : j < l.length) :
    ∃ rest, (rest ++ [l[j]]).Perm l ∧ rest.length = n + 1
      ∧ ∀ js, AreChoices (shuffledPositions (n + 1)) js →
        shuffle l (j :: js) = shuffle rest js ++ [l[j]] := by
  obtain ⟨rest, hswap, hrest⟩ := exists_swapAt_last hn hj
  refine ⟨rest, hswap ▸ swapAt_perm l (n + 1) j, hrest, fun js hjs => ?_⟩
  have hlength : js.length = n := by
    rw [hjs.length_eq, length_shuffledPositions, Nat.add_sub_cancel]
  rw [shuffle, hlength, hswap]
  exact shuffle_append (by rwa [hrest]) _

/-- Each order of different entries comes from exactly one sequence of choices, as the entry that
ends up last tells which choice was first. -/
theorem existsUnique_choices {l order : List α} (hl : l.Nodup) (horder : order.Perm l) :
    ∃! choices, AreChoices (shuffledPositions l.length) choices ∧ shuffle l choices = order := by
  generalize hn : l.length = n
  induction n using Nat.twoStepInduction generalizing l order with
  | zero | one =>
    have hnone : ∀ choices, AreChoices [] choices ↔ choices = [] := by simp [AreChoices]
    have hself : l = order := by
      match l, hn with
      | [], _ => exact (List.perm_nil.1 horder).symm
      | [a], _ => exact (List.perm_singleton.1 horder).symm
    exact ⟨[], ⟨(hnone _).2 rfl, hself⟩, fun choices h => (hnone _).1 h.1⟩
  | more n _ ih =>
    obtain ⟨front, x, rfl⟩ : ∃ front x, order = front ++ [x] := by
      rcases List.eq_nil_or_concat order with rfl | ⟨front, x, h⟩
      · have := horder.length_eq
        simp [hn] at this
      · exact ⟨front, x, by rw [h, List.concat_eq_append]⟩
    obtain ⟨j, hj, rfl⟩ := List.getElem_of_mem (horder.subset (by simp : x ∈ front ++ [x]))
    obtain ⟨rest, hperm, hrest, hstep⟩ := exists_shuffle_cons hn hj
    have hfront : front.Perm rest := (List.perm_append_right_iff _).1 (horder.trans hperm.symm)
    have hnodup : rest.Nodup := (hperm.nodup_iff.2 hl).sublist (List.sublist_append_left _ _)
    obtain ⟨js, ⟨hjs, hshuffle⟩, hunique⟩ := ih hnodup hfront hrest
    rw [shuffledPositions_succ]
    refine ⟨j :: js, ⟨.cons (by omega) hjs, by rw [hstep js hjs, hshuffle]⟩, ?_⟩
    rintro choices ⟨hchoices, horder'⟩
    obtain ⟨k, ks, hk, hks, rfl⟩ := List.forall₂_cons_right_iff.1 hchoices
    have hklt : k < l.length := by omega
    obtain ⟨rest', -, -, hstep'⟩ := exists_shuffle_cons hn hklt
    obtain ⟨-, hlast⟩ := List.append_inj' ((hstep' ks hks).symm.trans horder') rfl
    obtain rfl : k = j := hl.getElem_inj_iff.1 (by simpa using hlast)
    obtain ⟨hfirst, -⟩ := List.append_inj' ((hstep ks hks).symm.trans horder') rfl
    rw [hunique ks ⟨hks, hfirst⟩]

/-- What only one of the outcomes leads to is as likely as that outcome. -/
theorem map_apply_of_unique {β γ : Type} {p : PMF β} {f : β → γ} {b : β}
    (h : ∀ b' ∈ p.support, f b' = f b → b' = b) : p.map f (f b) = p b := by
  rw [PMF.map_apply, tsum_eq_single b, if_pos rfl]
  intro b' hne
  by_cases hb' : b' ∈ p.support
  · exact if_neg fun heq => hne (h b' hb' heq.symm)
  · rw [(PMF.apply_eq_zero_iff p b').2 hb', ite_self]

theorem areChoices_of_drawn {positions choices : List Nat}
    (h : choices ∈ (drawnChoices positions).support) : AreChoices positions choices := by
  induction positions generalizing choices with
  | nil =>
    obtain rfl : choices = [] := by simpa [drawnChoices] using h
    exact .nil
  | cons i is ih =>
    simp only [drawnChoices, PMF.mem_support_bind_iff, PMF.mem_support_map_iff,
      PMF.mem_support_uniformOfFinset_iff, Finset.mem_range] at h
    obtain ⟨j, hj, js, hjs, rfl⟩ := h
    exact .cons (Nat.le_of_lt_succ hj) (ih hjs)

/-- All choices for the same positions are equally likely. -/
theorem drawnChoices_apply {positions choices : List Nat} (h : AreChoices positions choices) :
    drawnChoices positions choices = (((positions.map (· + 1)).prod : Nat) : ℝ≥0∞)⁻¹ := by
  induction h with
  | nil => simp [drawnChoices]
  | @cons j i js is hj _ ih =>
    have hother : ∀ k, k ≠ j → ((drawnChoices is).map (k :: ·)) (j :: js) = 0 := by
      intro k hk
      rw [PMF.apply_eq_zero_iff, PMF.mem_support_map_iff]
      rintro ⟨ks, -, heq⟩
      exact hk (List.cons.inj heq).1
    have hsame : ((drawnChoices is).map (j :: ·)) (j :: js) = drawnChoices is js :=
      map_apply_of_unique (f := (j :: ·)) fun ks _ heq => (List.cons.inj heq).2
    rw [drawnChoices, PMF.bind_apply, tsum_eq_single j fun k hk => by rw [hother k hk, mul_zero],
      hsame, ih, PMF.uniformOfFinset_apply_of_mem _ (Finset.mem_range.2 (Nat.lt_succ_of_le hj)),
      Finset.card_range, List.map_cons, List.prod_cons, Nat.cast_mul,
      ENNReal.mul_inv (.inr (ENNReal.natCast_ne_top _)) (.inl (ENNReal.natCast_ne_top _))]

theorem prod_shuffledPositions (n : Nat) : ((shuffledPositions n).map (· + 1)).prod = n ! := by
  induction n using Nat.twoStepInduction with
  | zero | one => rfl
  | more n _ ih =>
    rw [shuffledPositions_succ, List.map_cons, List.prod_cons, ih, Nat.factorial_succ (n + 1)]

theorem drawnOrder_apply {n : Nat} {order : List Nat} (h : order.Perm (List.range n)) :
    drawnOrder n order = ((n ! : Nat) : ℝ≥0∞)⁻¹ := by
  obtain ⟨choices, ⟨hchoices, rfl⟩, hunique⟩ := existsUnique_choices List.nodup_range h
  rw [List.length_range] at hchoices hunique
  rw [drawnOrder, map_apply_of_unique fun choices' hdrawn heq =>
    hunique choices' ⟨areChoices_of_drawn hdrawn, heq⟩, drawnChoices_apply hchoices,
    prod_shuffledPositions]

/-- The orders of the numbers below `n`. -/
def orders (n : Nat) : Finset (List Nat) := (List.range n).permutations.toFinset

theorem mem_orders {n : Nat} {order : List Nat} :
    order ∈ orders n ↔ order.Perm (List.range n) := by
  rw [orders, List.mem_toFinset, List.mem_permutations]

theorem card_orders (n : Nat) : (orders n).card = n ! := by
  rw [orders, List.toFinset_card_of_nodup (List.nodup_permutations _ List.nodup_range),
    List.length_permutations, List.length_range]

theorem orders_nonempty (n : Nat) : (orders n).Nonempty :=
  ⟨List.range n, mem_orders.2 (.refl _)⟩

theorem drawnOrder_eq_uniform (n : Nat) :
    drawnOrder n = PMF.uniformOfFinset (orders n) (orders_nonempty n) := by
  ext order
  by_cases h : order.Perm (List.range n)
  · rw [drawnOrder_apply h, PMF.uniformOfFinset_apply_of_mem _ (mem_orders.2 h), card_orders]
  · rw [PMF.uniformOfFinset_apply_of_notMem _ fun hm => h (mem_orders.1 hm),
      PMF.apply_eq_zero_iff, drawnOrder, PMF.mem_support_map_iff]
    rintro ⟨choices, -, rfl⟩
    exact h (shuffle_perm _ _)

/-- As many orders begin with a number as there are orders of the other numbers. -/
theorem card_orders_beginning {n i : Nat} (hi : i < n) :
    {order ∈ orders n | order.head? = some i}.card = (n - 1)! := by
  have hmem : i ∈ List.range n := List.mem_range.2 hi
  have himage : {order ∈ orders n | order.head? = some i}
      = ((List.range n).erase i).permutations.toFinset.image (i :: ·) := by
    ext order
    simp only [Finset.mem_filter, mem_orders, Finset.mem_image, List.mem_toFinset,
      List.mem_permutations]
    constructor
    · rintro ⟨hperm, hhead⟩
      obtain ⟨rest, rfl⟩ := List.head?_eq_some_iff.1 hhead
      exact ⟨rest, (List.cons_perm_iff_perm_erase.1 hperm).2, rfl⟩
    · rintro ⟨rest, hperm, rfl⟩
      exact ⟨List.cons_perm_iff_perm_erase.2 ⟨hmem, hperm⟩, rfl⟩
  rw [himage, Finset.card_image_of_injective _ List.cons_injective,
    List.toFinset_card_of_nodup (List.nodup_permutations _ (List.nodup_range.erase i)),
    List.length_permutations, List.length_erase_of_mem hmem, List.length_range]

theorem drawnOrder_first {n i : Nat} (hi : i < n) :
    (drawnOrder n).map List.head? (some i) = (n : ℝ≥0∞)⁻¹ := by
  have hfactorial : (n ! : ℝ≥0∞) = n * (n - 1)! := by
    rw [← Nat.cast_mul, Nat.mul_factorial_pred (Nat.ne_zero_of_lt hi)]
  have hne : ((n - 1)! : ℝ≥0∞) ≠ 0 := Nat.cast_ne_zero.2 (Nat.factorial_ne_zero _)
  have hfinite : ((n - 1)! : ℝ≥0∞) ≠ ⊤ := ENNReal.natCast_ne_top _
  calc (drawnOrder n).map List.head? (some i)
      = (drawnOrder n).toOuterMeasure (Set.preimage List.head? {some i}) := by
        rw [← PMF.toOuterMeasure_apply_singleton, PMF.toOuterMeasure_map_apply]
    _ = ((n - 1)! : ℝ≥0∞) / n ! := by
        rw [drawnOrder_eq_uniform, PMF.toOuterMeasure_uniformOfFinset_apply, card_orders,
          ← card_orders_beginning hi]
        congr
    _ = (n : ℝ≥0∞)⁻¹ := by
        rw [hfactorial, ENNReal.div_eq_inv_mul, ENNReal.mul_inv (.inr hfinite) (.inr hne),
          mul_assoc, ENNReal.inv_mul_cancel hne hfinite, mul_one]

/-- A dial first tries the address at the first position of its order. -/
theorem head?_candidates {addresses : List String} {order : List Nat}
    (h : order.Perm (List.range addresses.length)) (port : UInt16) :
    (candidates addresses order port).head?
      = (order.head?.bind (addresses[·]?)).map (joinHostPort · port) := by
  rcases order with _ | ⟨i, order⟩
  · rfl
  · have hi : i < addresses.length := List.mem_range.1 (h.subset List.mem_cons_self)
    have hsome : addresses[i]? = some addresses[i] := List.getElem?_eq_getElem hi
    rw [candidates, inOrder, List.filterMap_cons_some hsome, List.map_cons, List.head?_cons,
      List.head?_cons, Option.bind_some, hsome, Option.map_some]

/-- Where random words give the choices, too, each is at most its position. -/
theorem RandomSource.areChoices_choices (r : RandomSource) (n : Nat) :
    AreChoices (shuffledPositions (n + 1)) (r.choices n).1 := by
  induction n generalizing r with
  | zero => exact .nil
  | succ n ih =>
    rw [shuffledPositions_succ, choices]
    exact .cons (Nat.le_of_lt_succ (Nat.mod_lt _ (Nat.succ_pos _))) (ih _)

/-- A shuffle of the numbers below `n` by choices, one at most each position from the last to the
second, is a permutation of them, and each of their permutations comes from exactly one sequence of
such choices. So if the choices are uniform and independent all `n!` orders are equally likely, and
each number comes first with the same chance: it is the position of the address that a dial tries
first. The choices that a random source makes are of this kind. -/
theorem shuffle_fair (n : Nat) :
    (∀ choices, AreChoices (shuffledPositions n) choices →
      (shuffle (List.range n) choices).Perm (List.range n))
    ∧ (∀ order : List Nat, order.Perm (List.range n) →
      ∃! choices, AreChoices (shuffledPositions n) choices
        ∧ shuffle (List.range n) choices = order)
    ∧ (∀ order : List Nat, order.Perm (List.range n) → drawnOrder n order = (n ! : ℝ≥0∞)⁻¹)
    ∧ (∀ i < n, (drawnOrder n).map List.head? (some i) = (n : ℝ≥0∞)⁻¹)
    ∧ (∀ (addresses : List String) (port : UInt16), addresses.length = n →
      ∀ order : List Nat, order.Perm (List.range n) →
        (candidates addresses order port).head?
          = (order.head?.bind (addresses[·]?)).map (joinHostPort · port))
    ∧ ∀ r : RandomSource, ∃ choices, AreChoices (shuffledPositions n) choices
      ∧ (r.permutation n).1 = shuffle (List.range n) choices := by
  refine ⟨fun choices _ => shuffle_perm _ _, fun order h => ?_, fun order h => drawnOrder_apply h,
    fun i hi => drawnOrder_first hi, ?_, fun r => ⟨(r.choices (n - 1)).1, ?_, rfl⟩⟩
  · simpa using existsUnique_choices List.nodup_range h
  · rintro addresses port rfl order h
    exact head?_candidates h port
  · rcases n with _ | n
    · exact .nil
    · exact r.areChoices_choices n

/-- Three numbers are turned round by the choices zero and one and by no others, with a chance of
one in six, and then the last of three addresses is tried first. -/
theorem shuffle_turns_three_round :
    AreChoices (shuffledPositions 3) [0, 1] ∧ [2, 1, 0].Perm (List.range 3)
      ∧ shuffle (List.range 3) [0, 1] = [2, 1, 0]
      ∧ (∀ choices, AreChoices (shuffledPositions 3) choices
        → shuffle (List.range 3) choices = [2, 1, 0] → choices = [0, 1])
      ∧ drawnOrder 3 [2, 1, 0] = (3 ! : ℝ≥0∞)⁻¹
      ∧ (drawnOrder 3).map List.head? (some 2) = 3⁻¹
      ∧ (candidates ["a", "b", "c"] [2, 1, 0] 80).head? = some "c:80" := by
  have hchoices : AreChoices (shuffledPositions 3) [0, 1] :=
    .cons (by decide) (.cons (by decide) .nil)
  have hshuffle : shuffle (List.range 3) [0, 1] = [2, 1, 0] := by decide
  obtain ⟨hperm, hunique, hdrawn, hfirst, hhead, -⟩ := shuffle_fair 3
  have horder : [2, 1, 0].Perm (List.range 3) := hshuffle ▸ hperm [0, 1] hchoices
  refine ⟨hchoices, horder, hshuffle, fun choices h heq => ?_, hdrawn _ horder,
    hfirst 2 (by decide), (hhead ["a", "b", "c"] 80 rfl _ horder).trans (by decide +kernel)⟩
  exact (hunique _ horder).unique ⟨h, heq⟩ ⟨hchoices, hshuffle⟩

end HostDialing

import HostDialing.Ip.Parse
import HostDialing.Ip.Print
import HostDialing.Proofs.Text.Fields
import HostDialing.Proofs.Text.Numerals

/-!
# The text of an IP address

Every address reads back from its text (`IpAddress.parse?_text`), so no two have the same text; an
address of the first family and its image in the second differ in theirs too. What a text leaves
out between its colons is the first of the longest runs of zero groups
(`longestZeros_isFirstLongest`).
-/

namespace HostDialing

theorem octet?_decimal (a : UInt8) : octet? (decimal a.toNat) = some a := by
  have hlength : (decimal a.toNat).length ≤ 3 :=
    (Nat.length_toDigits_le_iff (by decide) (by decide)).2 (a.toNat_lt.trans (by decide))
  have hzero : (decimal a.toNat).head? ≠ some '0' ∨ (decimal a.toNat).length = 1 := by
    by_cases ha : a.toNat = 0
    · exact .inr (by rw [ha]; rfl)
    · exact .inl (head?_decimal ha)
  rw [octet?, if_pos ⟨hlength, hzero⟩, digits?_decimal, Option.bind_some, dif_pos a.toNat_lt,
    UInt8.ofNatLT_toNat]

theorem isDigit_of_octet? {cs : List Char} {a : UInt8} (h : octet? cs = some a) {c : Char}
    (hc : c ∈ cs) : c.isDigit := by
  unfold octet? at h
  split_ifs at h
  obtain ⟨n, hn, -⟩ := Option.bind_eq_some_iff.1 h
  exact (digits?_eq_some_iff.1 hn).2.1 c hc

theorem dot_notMem_decimal (n : Nat) : '.' ∉ decimal n := fun h =>
  absurd (isDigit_of_mem_decimal h) (by decide)

theorem octets?_octetsText (a b c d : UInt8) :
    octets? (octetsText a b c d) = some (a, b, c, d) := by
  rw [octetsText, octets?, fields_joined (by simp) (by simp [dot_notMem_decimal])]
  simp [octet?_decimal]

theorem mem_octetsText {a b c d : UInt8} {x : Char} (h : x ∈ octetsText a b c d) :
    x = '.' ∨ x.isDigit := by
  rcases mem_joined h with rfl | ⟨f, hf, hx⟩
  · exact .inl rfl
  · simp only [List.mem_cons, List.not_mem_nil, or_false] at hf
    rcases hf with rfl | rfl | rfl | rfl <;> exact .inr (isDigit_of_mem_decimal hx)

theorem colon_notMem_octetsText (a b c d : UInt8) : ':' ∉ octetsText a b c d := fun h =>
  absurd (mem_octetsText h) (by decide)

/-- Octets have no colons. -/
theorem octets?_of_colon {cs : List Char} (h : ':' ∈ cs) : octets? cs = none := by
  obtain ⟨f, hf, hc⟩ := mem_fields '.' h (by decide)
  have hnone : octet? f = none := by
    by_contra hne
    obtain ⟨a, ha⟩ := Option.ne_none_iff_exists'.1 hne
    exact absurd (isDigit_of_octet? ha hc) (by decide)
  unfold octets?
  split
  · rename_i p q r s hfields
    simp only [hfields, List.mem_cons, List.not_mem_nil, or_false] at hf
    rcases hf with rfl | rfl | rfl | rfl <;> simp [hnone]
  · rfl

theorem group?_hexadecimal (g : UInt16) : group? (hexadecimal g.toNat) = some g := by
  have hlength : (hexadecimal g.toNat).length ≤ 4 :=
    (Nat.length_toDigits_le_iff (by decide) (by decide)).2 g.toNat_lt
  rw [group?, if_pos ⟨hexadecimal_ne_nil _, hlength⟩, hexDigits?_hexadecimal, Option.map_some,
    UInt16.ofNat_toNat]

theorem group?_octetsText (a b c d : UInt8) : group? (octetsText a b c d) = none := by
  have hdot : '.' ∈ octetsText a b c d := by simp [octetsText, joined]
  have hnone : hexDigits? (octetsText a b c d) = none := by
    by_contra hne
    have := isSome_hexDigit?_of_hexDigits? (Option.isSome_iff_ne_none.2 hne) hdot
    simp [hexDigit?] at this
  unfold group?
  split_ifs
  · rw [hnone, Option.map_none]
  · rfl

theorem groupList?_hexadecimal (tail : Bool) (groups : List UInt16) :
    groupList? tail (groups.map fun g => hexadecimal g.toNat) = some groups := by
  induction groups with
  | nil => rfl
  | cons g gs ih =>
    rcases gs with _ | ⟨g', gs⟩
    · simp [groupList?, group?_hexadecimal]
    · rw [List.map_cons] at ih
      rw [List.map_cons, List.map_cons, groupList?, ih, group?_hexadecimal]
      · rfl
      · simp

theorem groupsText_cons (g : UInt16) {gs : List UInt16} (h : gs ≠ []) :
    groupsText (g :: gs) = hexadecimal g.toNat ++ ':' :: groupsText gs :=
  joined_cons (by simpa using h)

theorem groupsText_singleton (g : UInt16) : groupsText [g] = hexadecimal g.toNat := rfl

theorem groupsText_ne_nil {groups : List UInt16} (h : groups ≠ []) : groupsText groups ≠ [] := by
  obtain ⟨g, gs, rfl⟩ := List.exists_cons_of_ne_nil h
  rcases gs with _ | ⟨g', gs⟩
  · exact hexadecimal_ne_nil _
  · simp [groupsText_cons]

theorem groups?_groupsText (tail : Bool) (groups : List UInt16) :
    groups? tail (groupsText groups) = some groups := by
  rcases groups with _ | ⟨g, gs⟩
  · rfl
  rw [groups?, if_neg (groupsText_ne_nil (List.cons_ne_nil _ _)), groupsText,
    fields_joined (by simp), groupList?_hexadecimal]
  intro f hf
  obtain ⟨g', -, rfl⟩ := List.mem_map.1 hf
  exact colon_notMem_hexadecimal _

theorem splitGap_of_notMem {cs : List Char} (h : ':' ∉ cs) : splitGap cs = none := by
  fun_induction splitGap cs with
  | case1 => rfl
  | case2 => rfl
  | case3 cs => simp at h
  | case4 c d cs hc ih => rw [ih fun hm => h (List.mem_cons_of_mem _ hm), Option.map_none]

/-- A single colon behind something else is no gap. -/
theorem splitGap_append_colon {f cs : List Char} (hf : ':' ∉ f) (hne : f ≠ [])
    (hcs : cs.head? ≠ some ':') (h : splitGap cs = none) : splitGap (f ++ ':' :: cs) = none := by
  have hcolon : splitGap (':' :: cs) = none := by
    rcases cs with _ | ⟨c, cs⟩
    · rfl
    · rw [splitGap, h, Option.map_none]
      rintro - rfl
      exact hcs rfl
  induction f with
  | nil => exact absurd rfl hne
  | cons c f ih =>
    obtain ⟨hc, hf⟩ := not_or.1 (List.mem_cons.not.1 hf)
    rcases f with _ | ⟨d, f⟩
    · rw [List.singleton_append, splitGap, hcolon, Option.map_none]
      rintro rfl -
      exact hc rfl
    · have hrest := ih hf (List.cons_ne_nil _ _)
      rw [List.cons_append] at hrest
      rw [List.cons_append, List.cons_append, splitGap, hrest, Option.map_none]
      rintro rfl -
      exact hc rfl

theorem head?_groupsText (groups : List UInt16) : (groupsText groups).head? ≠ some ':' := by
  rcases groups with _ | ⟨g, gs⟩
  · simp [groupsText, joined]
  have hcolon := colon_notMem_hexadecimal g.toNat
  obtain ⟨c, cs, hcs⟩ := List.exists_cons_of_ne_nil (hexadecimal_ne_nil g.toNat)
  rw [hcs] at hcolon
  have hc : c ≠ ':' := fun hc => hcolon (by simp [hc])
  rcases gs with _ | ⟨g', gs⟩
  · simpa [groupsText_singleton, hcs] using hc
  · simpa [groupsText_cons, hcs] using hc

theorem getLast?_groupsText (groups : List UInt16) : (groupsText groups).getLast? ≠ some ':' := by
  induction groups with
  | nil => simp [groupsText, joined]
  | cons g gs ih =>
    rcases gs with _ | ⟨g', gs⟩
    · rw [groupsText_singleton]
      exact fun h => colon_notMem_hexadecimal _ (List.mem_of_getLast? h)
    · obtain ⟨c, cs, hcs⟩ :=
        List.exists_cons_of_ne_nil (groupsText_ne_nil (List.cons_ne_nil g' gs))
      rw [hcs] at ih
      simpa [groupsText_cons, hcs] using ih

theorem splitGap_groupsText (groups : List UInt16) : splitGap (groupsText groups) = none := by
  induction groups with
  | nil => rfl
  | cons g gs ih =>
    rcases gs with _ | ⟨g', gs⟩
    · exact splitGap_of_notMem (colon_notMem_hexadecimal _)
    · rw [groupsText_cons g (List.cons_ne_nil _ _)]
      exact splitGap_append_colon (colon_notMem_hexadecimal _) (hexadecimal_ne_nil _)
        (head?_groupsText _) ih

/-- The first double colon behind a text that has none and does not end with a colon. -/
theorem splitGap_append_gap {cs : List Char} (h : splitGap cs = none)
    (hlast : cs.getLast? ≠ some ':') (behind : List Char) :
    splitGap (cs ++ ':' :: ':' :: behind) = some (cs, behind) := by
  fun_induction splitGap cs with
  | case1 => rfl
  | case2 c =>
    rw [List.singleton_append, splitGap, splitGap, Option.map_some]
    rintro rfl -
    exact hlast rfl
  | case3 cs => cases h
  | case4 c d cs hc ih =>
    have hrest := ih (Option.map_eq_none_iff.1 h) (by simpa using hlast)
    rw [List.cons_append] at hrest
    rw [List.cons_append, List.cons_append, splitGap, hrest, Option.map_some]
    exact hc

/-- So many zero groups one after another, from a position on. -/
def IsZeroRun (groups : List UInt16) (start length : Nat) : Prop :=
  start + length ≤ groups.length ∧ (groups.drop start).take length = List.replicate length 0

/-- No run is longer, and none as long begins before. -/
structure IsFirstLongest (groups : List UInt16) (start length : Nat) : Prop where
  isRun : IsZeroRun groups start length
  longest : ∀ i n, IsZeroRun groups i n → n ≤ length
  first : ∀ i, IsZeroRun groups i length → start ≤ i

theorem take_eq_replicate_iff {groups : List UInt16} {n : Nat} :
    n ≤ groups.length ∧ groups.take n = List.replicate n 0 ↔ n ≤ leadingZeros groups := by
  induction groups generalizing n with
  | nil =>
    rcases n with _ | n <;> simp [leadingZeros]
  | cons g gs ih =>
    rcases n with _ | n
    · simp
    · by_cases hg : g = 0
      · have := @ih n
        simp only [leadingZeros] at this
        simp [leadingZeros, hg, List.replicate_succ, this]
      · simp [leadingZeros, hg, List.replicate_succ]

theorem isZeroRun_iff {groups : List UInt16} {i n : Nat} (hi : i ≤ groups.length) :
    IsZeroRun groups i n ↔ n ≤ leadingZeros (groups.drop i) := by
  rw [← take_eq_replicate_iff, List.length_drop, IsZeroRun]
  exact and_congr_left fun _ => by omega

theorem longestZeros_isFirstLongest {groups : List UInt16} (hne : groups ≠ []) :
    IsFirstLongest groups (longestZeros groups).1 (longestZeros groups).2 := by
  set runs := (List.range groups.length).map fun i => leadingZeros (groups.drop i) with hruns
  set m := runs.foldl max 0 with hm
  have hlength : runs.length = groups.length := by simp [hruns]
  have hat : ∀ i, (hi : i < runs.length) → runs[i] = leadingZeros (groups.drop i) := by
    simp [hruns]
  have hmax : runs.max? = some m := by
    have hrunsne : runs ≠ [] := by simpa [hruns] using hne
    obtain ⟨k, hk⟩ := Option.isSome_iff_exists.1 (List.isSome_max?_iff.2 hrunsne)
    rw [hm, List.foldl_max, hk, Option.getD_some, Nat.zero_max]
  obtain ⟨hmem, hle⟩ := List.max?_eq_some_iff.1 hmax
  have hstart : runs.idxOf m < runs.length := List.idxOf_lt_length_of_mem hmem
  have heq : leadingZeros (groups.drop (runs.idxOf m)) = m := by
    rw [← hat _ hstart, List.getElem_idxOf]
  show IsFirstLongest groups (runs.idxOf m) m
  refine ⟨(isZeroRun_iff (by omega)).2 heq.ge, fun i n hrun => ?_, fun i hrun => ?_⟩
  · by_cases hi : i < runs.length
    · exact ((isZeroRun_iff (by omega)).1 hrun).trans (hat i hi ▸ hle _ (List.getElem_mem hi))
    · have := hrun.1
      omega
  · by_contra hlt
    have hi : i < runs.length := by omega
    have hge := (isZeroRun_iff (by omega)).1 hrun
    rw [← hat i hi] at hge
    have hne : (runs[i] == m) = false := List.not_of_lt_findIdx (not_le.1 hlt)
    exact beq_eq_false_iff_ne.1 hne (le_antisymm (hle _ (List.getElem_mem hi)) hge)

theorem IsFirstLongest.unique {groups : List UInt16} {i n j m : Nat}
    (h : IsFirstLongest groups i n) (h' : IsFirstLongest groups j m) : i = j ∧ n = m := by
  obtain rfl : n = m := le_antisymm (h'.longest i n h.isRun) (h.longest j m h'.isRun)
  exact ⟨le_antisymm (h.first j h'.isRun) (h'.first i h.isRun), rfl⟩

/-- What stands before, in and behind a run. -/
theorem IsZeroRun.append_eq {groups : List UInt16} {i n : Nat} (h : IsZeroRun groups i n) :
    groups.take i ++ List.replicate n 0 ++ groups.drop (i + n) = groups := by
  rw [← h.2, List.append_assoc, ← List.drop_drop, List.take_append_drop, List.take_append_drop]

/-- The text of groups around a run of zeros. -/
theorem v6?_gap {groups : List UInt16} (hlength : groups.length = 8) {i n : Nat}
    (h : IsZeroRun groups i n) (hn : 0 < n) :
    v6? (groupsText (groups.take i) ++ ':' :: ':' :: groupsText (groups.drop (i + n)))
      = some (.v6 groups hlength) := by
  have hle := h.1
  have hfill : 8 - (groups.take i).length - (groups.drop (i + n)).length = n := by
    simp only [List.length_take, List.length_drop]
    omega
  rw [v6?, splitGap_append_gap (splitGap_groupsText _) (getLast?_groupsText _)]
  simp only [groups?_groupsText, Option.bind_eq_bind, Option.bind_some, filled?, hfill,
    h.append_eq]
  rw [dif_pos]
  simp only [List.length_take, List.length_drop]
  omega

theorem v6?_groupsText {groups : List UInt16} (hlength : groups.length = 8) :
    v6? (groupsText groups) = some (.v6 groups hlength) := by
  rw [v6?, splitGap_groupsText]
  simp only [groups?_groupsText, Option.bind_eq_bind, Option.bind_some, dif_pos hlength]

theorem groupOf_octetsOf (g : UInt16) : groupOf (octetsOf g).1 (octetsOf g).2 = g := by
  have hg := g.toNat_lt
  have hlow : g.toNat % 256 < 2 ^ 8 := Nat.mod_lt _ (by decide)
  have hhigh : (g.toNat / 256 % 256) <<< 8 % 65536 = (g.toNat / 256) <<< 8 := by
    rw [Nat.shiftLeft_eq, Nat.shiftLeft_eq]
    omega
  have hnat : (groupOf (octetsOf g).1 (octetsOf g).2).toNat
      = (g.toNat >>> 8 % 256) <<< 8 % 65536 ||| g.toNat % 256 := by
    simp [groupOf, octetsOf]
  rw [← UInt16.toNat_inj, hnat, Nat.shiftRight_eq_div_pow, hhigh,
    ← Nat.shiftLeft_add_eq_or_of_lt hlow, Nat.shiftLeft_eq]
  omega

theorem v6?_mapped (g h : UInt16) (hlength : [0, 0, 0, 0, 0, 0xffff, g, h].length = 8) :
    v6? ("::ffff:".toList
        ++ octetsText (octetsOf g).1 (octetsOf g).2 (octetsOf h).1 (octetsOf h).2)
      = some (.v6 [0, 0, 0, 0, 0, 0xffff, g, h] hlength) := by
  set octets := octetsText (octetsOf g).1 (octetsOf g).2 (octetsOf h).1 (octetsOf h).2
  have hfields : fields ':' ("ffff".toList ++ ':' :: octets) = ["ffff".toList, octets] := by
    rw [fields_append (by decide), fields_of_notMem (colon_notMem_octetsText _ _ _ _)]
  have hffff : group? "ffff".toList = some 0xffff := by decide
  have hoctets : groupList? true [octets] = some [g, h] := by
    simp [groupList?, octets, group?_octetsText, octets?_octetsText, groupOf_octetsOf]
  have htail : groups? true ("ffff".toList ++ ':' :: octets) = some [0xffff, g, h] := by
    rw [groups?, if_neg (by simp), hfields, groupList?, hffff, hoctets]
    · rfl
    · simp
  show v6? (':' :: ':' :: ("ffff".toList ++ ':' :: octets)) = _
  have hnil : groups? false [] = some [] := rfl
  rw [v6?, splitGap]
  simp only [hnil, htail, Option.bind_eq_bind, Option.bind_some]
  rfl

/-- The one text of an address: octets in decimal; for an address of the first family that is
mapped into the second, its octets behind `::ffff:`; otherwise groups, of which the first of the
longest runs of at least two zeros is left out. -/
inductive CanonicalText : IpAddress → List Char → Prop
  | octets (a b c d : UInt8) : CanonicalText (.v4 a b c d) (octetsText a b c d)
  | mapped (g h : UInt16) (length_eq : [0, 0, 0, 0, 0, 0xffff, g, h].length = 8) :
    CanonicalText (.v6 [0, 0, 0, 0, 0, 0xffff, g, h] length_eq) ("::ffff:".toList
      ++ octetsText (octetsOf g).1 (octetsOf g).2 (octetsOf h).1 (octetsOf h).2)
  | gap {groups : List UInt16} (length_eq : groups.length = 8)
    (unmapped : ∀ g h, groups ≠ [0, 0, 0, 0, 0, 0xffff, g, h]) {start length : Nat}
    (run : IsFirstLongest groups start length) (long : 2 ≤ length) :
    CanonicalText (.v6 groups length_eq) (groupsText (groups.take start)
      ++ ':' :: ':' :: groupsText (groups.drop (start + length)))
  | full {groups : List UInt16} (length_eq : groups.length = 8)
    (unmapped : ∀ g h, groups ≠ [0, 0, 0, 0, 0, 0xffff, g, h])
    (short : ∀ start length, IsZeroRun groups start length → length < 2) :
    CanonicalText (.v6 groups length_eq) (groupsText groups)

theorem IpAddress.chars_unmapped {groups : List UInt16} (hlength : groups.length = 8)
    (h : ∀ g h, groups ≠ [0, 0, 0, 0, 0, 0xffff, g, h]) :
    (v6 groups hlength).chars = if (longestZeros groups).2 > 1 then
        groupsText (groups.take (longestZeros groups).1) ++ ':' :: ':' ::
          groupsText (groups.drop ((longestZeros groups).1 + (longestZeros groups).2))
      else groupsText groups := by
  unfold chars
  split
  · rename_i heq
    cases heq
  · rename_i g' h' hlength' heq
    injection heq with heq
    exact absurd heq (h g' h')
  · rename_i heq
    injection heq with heq
    subst heq
    simp only [List.append_assoc, List.cons_append, List.nil_append]

theorem IpAddress.canonicalText (ip : IpAddress) : CanonicalText ip ip.chars := by
  rcases ip with ⟨a, b, c, d⟩ | ⟨groups, hlength⟩
  · exact .octets a b c d
  by_cases hmapped : ∃ g h, groups = [0, 0, 0, 0, 0, 0xffff, g, h]
  · obtain ⟨g, h, rfl⟩ := hmapped
    exact .mapped g h hlength
  have hunmapped : ∀ g h, groups ≠ [0, 0, 0, 0, 0, 0xffff, g, h] := by simpa using hmapped
  have hrun := longestZeros_isFirstLongest (List.ne_nil_of_length_eq_add_one hlength)
  rw [chars_unmapped hlength hunmapped]
  split_ifs with hlong
  · exact .gap hlength hunmapped hrun hlong
  · refine .full hlength hunmapped fun i n h => ?_
    have := hrun.longest i n h
    omega

theorem canonicalText_iff {ip : IpAddress} {cs : List Char} :
    CanonicalText ip cs ↔ cs = ip.chars := by
  constructor
  · intro h
    cases h with
    | octets a b c d => rfl
    | mapped g h hlength => rfl
    | gap hlength unmapped run long =>
      obtain ⟨rfl, rfl⟩ := run.unique
        (longestZeros_isFirstLongest (List.ne_nil_of_length_eq_add_one hlength))
      exact (IpAddress.chars_unmapped hlength unmapped).trans (if_pos long) |>.symm
    | full hlength unmapped short =>
      have hrun := longestZeros_isFirstLongest (List.ne_nil_of_length_eq_add_one hlength)
      have := short _ _ hrun.isRun
      rw [IpAddress.chars_unmapped hlength unmapped, if_neg (by omega)]
  · rintro rfl
    exact ip.canonicalText

theorem CanonicalText.ofChars? {ip : IpAddress} {cs : List Char} (h : CanonicalText ip cs) :
    IpAddress.ofChars? cs = some ip := by
  have hv6 : ∀ {ip : IpAddress} {cs : List Char}, ':' ∈ cs → v6? cs = some ip →
      IpAddress.ofChars? cs = some ip := by
    intro ip cs hcolon hv6
    simp only [IpAddress.ofChars?, octets?_of_colon hcolon, hv6]
  cases h with
  | octets a b c d => simp only [IpAddress.ofChars?, octets?_octetsText]
  | mapped g h hlength =>
    exact hv6 (List.mem_append_left _ (by decide)) (v6?_mapped g h hlength)
  | gap hlength _ run long =>
    exact hv6 (by simp) (v6?_gap hlength run.isRun (by omega))
  | @full groups hlength =>
    refine hv6 ?_ (v6?_groupsText hlength)
    obtain ⟨g, gs, rfl⟩ := List.exists_cons_of_ne_nil (List.ne_nil_of_length_eq_add_one hlength)
    have hgs : gs ≠ [] := by
      rintro rfl
      cases hlength
    simp [groupsText_cons g hgs]

theorem IpAddress.parse?_text (ip : IpAddress) : parse? ip.text = some ip := by
  rw [parse?, text, String.toList_ofList, ip.canonicalText.ofChars?]

theorem IpAddress.text_injective : Function.Injective text := by
  intro ip ip' h
  exact Option.some_inj.1 (by rw [← parse?_text ip, h, parse?_text])

end HostDialing

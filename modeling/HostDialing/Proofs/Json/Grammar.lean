import HostDialing.Proofs.Json.Read

/-!
# The grammar of JSON

The texts of values, lists and objects nested in each other to any depth. Each of them is skipped to
its end and no further, whatever stands behind it (`skipValue_of_jsonText`).

A string is spelled in many ways: each of its characters may be escaped. Every spelling is read as
the string (`readText_of_spells`).
-/

namespace HostDialing

/-- Blanks between the parts of a text. -/
structure Blanks where
  text : List Char
  isBlank : ∀ c ∈ text, isJsonBlank c

inductive WholeText : List Char → Prop where
  | zero : WholeText ['0']
  | digits {c : Char} {cs : List Char} (hc : isOneToNine c) (hcs : ∀ d ∈ cs, d.isDigit) :
      WholeText (c :: cs)

/-- The digits behind the point, if there is one. -/
inductive PlacesText : List Char → Prop where
  | none : PlacesText []
  | digits {cs : List Char} (hne : cs ≠ []) (hcs : ∀ d ∈ cs, d.isDigit) : PlacesText ('.' :: cs)

/-- The power of ten, if there is one. -/
inductive PowerText : List Char → Prop where
  | none : PowerText []
  | unsigned {mark : Char} {cs : List Char} (hmark : isExponentMark mark) (hne : cs ≠ [])
      (hcs : ∀ d ∈ cs, d.isDigit) : PowerText (mark :: cs)
  | signed {mark sign : Char} {cs : List Char} (hmark : isExponentMark mark) (hsign : isSign sign)
      (hne : cs ≠ []) (hcs : ∀ d ∈ cs, d.isDigit) : PowerText (mark :: sign :: cs)

inductive JsonNumber : List Char → Prop where
  | unsigned {whole places power : List Char} (hwhole : WholeText whole)
      (hplaces : PlacesText places) (hpower : PowerText power) :
      JsonNumber (whole ++ (places ++ power))
  | negative {whole places power : List Char} (hwhole : WholeText whole)
      (hplaces : PlacesText places) (hpower : PowerText power) :
      JsonNumber ('-' :: (whole ++ (places ++ power)))

/-- The letters of escapes, and what each stands for. -/
def escapes : List (Char × Char) :=
  [('"', '"'), ('\\', '\\'), ('/', '/'), ('b', '\x08'), ('f', '\x0c'), ('n', '\n'), ('r', '\r'),
    ('t', '\t')]

/-- What may stand between the quotes of a string, halves of surrogate pairs included. -/
inductive StringText : List Char → Prop where
  | nil : StringText []
  | plain {c : Char} {cs : List Char} (hc : isPlain c) (h : StringText cs) : StringText (c :: cs)
  | escape {e c : Char} {cs : List Char} (he : (e, c) ∈ escapes) (h : StringText cs) :
      StringText ('\\' :: e :: cs)
  | code {x y z w : Char} {cs : List Char} (hcode : ∀ c ∈ [x, y, z, w], (hexDigit? c).isSome)
      (h : StringText cs) : StringText ('\\' :: 'u' :: x :: y :: z :: w :: cs)

/-- A string between quotes, and its characters. -/
inductive Spells : (text cs : List Char) → Prop where
  | nil : Spells [] []
  | plain {c : Char} {text cs : List Char} (hc : isPlain c) (h : Spells text cs) :
      Spells (c :: text) (c :: cs)
  | escape {e c : Char} {text cs : List Char} (he : (e, c) ∈ escapes) (h : Spells text cs) :
      Spells ('\\' :: e :: text) (c :: cs)
  | code {x y z w c : Char} {text cs : List Char} (hcode : hexDigits? [x, y, z, w] = some c.toNat)
      (h : Spells text cs) : Spells ('\\' :: 'u' :: x :: y :: z :: w :: text) (c :: cs)
  | pair {x y z w x' y' z' w' c : Char} {high low : Nat} {text cs : List Char}
      (hhigh : hexDigits? [x, y, z, w] = some high) (hlow : hexDigits? [x', y', z', w'] = some low)
      (hhigh' : 0xd800 ≤ high ∧ high ≤ 0xdbff) (hlow' : 0xdc00 ≤ low ∧ low ≤ 0xdfff)
      (hc : c.toNat = 0x10000 + (high - 0xd800) * 0x400 + (low - 0xdc00)) (h : Spells text cs) :
      Spells ('\\' :: 'u' :: x :: y :: z :: w :: '\\' :: 'u' :: x' :: y' :: z' :: w' :: text)
        (c :: cs)

def JsonFrame.opening : JsonFrame → Char
  | list => '['
  | object => '\x7b'

def JsonFrame.closing : JsonFrame → Char
  | list => ']'
  | object => '\x7d'

/-- The parts of which values are made. -/
inductive JsonPart where
  | value
  | entry (frame : JsonFrame)
  | entries (frame : JsonFrame)

/-- The texts of a part: a list has items, an object has members with names, and a comma stands
between two of them. -/
inductive JsonText : JsonPart → List Char → Prop where
  | literal {word : List Char}
      (h : word ∈ [['n', 'u', 'l', 'l'], ['t', 'r', 'u', 'e'], ['f', 'a', 'l', 's', 'e']]) :
      JsonText .value word
  | number {cs : List Char} (h : JsonNumber cs) : JsonText .value cs
  | text {cs : List Char} (h : StringText cs) : JsonText .value ('"' :: (cs ++ ['"']))
  | empty (frame : JsonFrame) (b : Blanks) :
      JsonText .value (frame.opening :: (b.text ++ [frame.closing]))
  | full {frame : JsonFrame} {cs : List Char} (h : JsonText (.entries frame) cs) :
      JsonText .value (frame.opening :: (cs ++ [frame.closing]))
  | item (before behind : Blanks) {cs : List Char} (h : JsonText .value cs) :
      JsonText (.entry .list) (before.text ++ (cs ++ behind.text))
  | member (before behindName beforeValue behind : Blanks) {name cs : List Char}
      (hname : StringText name) (h : JsonText .value cs) :
      JsonText (.entry .object) (before.text ++ '"' :: (name ++ '"' :: (behindName.text
        ++ ':' :: (beforeValue.text ++ (cs ++ behind.text)))))
  | last {frame : JsonFrame} {cs : List Char} (h : JsonText (.entry frame) cs) :
      JsonText (.entries frame) cs
  | more {frame : JsonFrame} {cs rest : List Char} (h : JsonText (.entry frame) cs)
      (hrest : JsonText (.entries frame) rest) : JsonText (.entries frame) (cs ++ ',' :: rest)

theorem EndsNumber.cons {c : Char} (hdigit : c.isDigit = false) (hdot : c ≠ '.')
    (hmark : isExponentMark c = false) (rest : List Char) : EndsNumber (c :: rest) := by
  rintro d hd
  obtain rfl := Option.some_inj.1 hd
  exact ⟨hdigit, hdot, hmark⟩

theorem Blanks.endsNumber (b : Blanks) {rest : List Char} (h : EndsNumber rest) :
    EndsNumber (b.text ++ rest) := by
  rcases b with ⟨_ | ⟨c, cs⟩, hb⟩
  · exact h
  have hc := hb c List.mem_cons_self
  simp only [isJsonBlank, Bool.or_eq_true, beq_iff_eq] at hc
  rcases hc with ((rfl | rfl) | rfl) | rfl <;>
    exact .cons (by decide) (by decide) (by decide) _

theorem Blanks.skipBlank_append (b : Blanks) (rest : List Char) :
    skipBlank (b.text ++ rest) = skipBlank rest :=
  List.dropWhile_append_of_pos b.isBlank

@[simp]
theorem Blanks.firstChar_append (b : Blanks) (rest : List Char) :
    firstChar (b.text ++ rest) = firstChar rest := by
  rw [firstChar, b.skipBlank_append, firstChar]

variable {frames : List JsonFrame} {rest : List Char}

namespace JsonScan

theorem run_of_goes {s t : JsonScan} {c : Char} (h : s.step c rest = .goes t) :
    s.run (c :: rest) = t.run rest := by
  rw [run, h]

theorem run_blanks {place : JsonPlace}
    (h : ∀ c rest, isJsonBlank c → step ⟨place, frames⟩ c rest = .goes ⟨place, frames⟩)
    (b : Blanks) (rest : List Char) :
    run ⟨place, frames⟩ (b.text ++ rest) = run ⟨place, frames⟩ rest := by
  rcases b with ⟨cs, hb⟩
  induction cs with
  | nil => rfl
  | cons c cs ih =>
    rw [List.cons_append, run_of_goes (h c _ (hb c List.mem_cons_self))]
    exact ih fun d hd => hb d (List.mem_cons_of_mem _ hd)

theorem run_blanks_expecting {place : JsonPlace}
    (h : place ∈ [.value, .firstItem, .firstName, .name, .colon]) (b : Blanks) (rest : List Char) :
    run ⟨place, frames⟩ (b.text ++ rest) = run ⟨place, frames⟩ rest := by
  refine run_blanks (fun c rest hc => ?_) b rest
  simp only [List.mem_cons, List.not_mem_nil, or_false] at h
  rcases h with rfl | rfl | rfl | rfl | rfl <;> exact if_pos hc

theorem run_blanks_after (frame : JsonFrame) (b : Blanks) (rest : List Char) :
    run ⟨.after, frame :: frames⟩ (b.text ++ rest) = run ⟨.after, frame :: frames⟩ rest := by
  refine run_blanks (fun c rest hc => ?_) b rest
  cases frame <;> exact if_pos hc

/-- With no frame open the value is over, and nothing more is read. -/
theorem run_after (rest : List Char) : run ⟨.after, []⟩ rest = .ok rest := by
  cases rest <;> rfl

theorem run_number {part next : NumberPart} {c : Char} (h : part.move c = .goes next) :
    run ⟨.number part, frames⟩ (c :: rest) = run ⟨.number next, frames⟩ rest :=
  run_of_goes (by simp only [step, h])

theorem run_digits {part : NumberPart} (hpart : ∀ c, c.isDigit → part.move c = .goes part)
    {cs : List Char} (h : ∀ c ∈ cs, c.isDigit) :
    run ⟨.number part, frames⟩ (cs ++ rest) = run ⟨.number part, frames⟩ rest := by
  induction cs with
  | nil => rfl
  | cons c cs ih =>
    rw [List.cons_append, run_number (hpart c (h c List.mem_cons_self))]
    exact ih fun d hd => h d (List.mem_cons_of_mem _ hd)

/-- The first of some digits decides which part of the number they are. -/
theorem run_someDigits {first part : NumberPart}
    (hfirst : ∀ c, c.isDigit → first.move c = .goes part)
    (hpart : ∀ c, c.isDigit → part.move c = .goes part) {cs : List Char} (hne : cs ≠ [])
    (h : ∀ c ∈ cs, c.isDigit) :
    run ⟨.number first, frames⟩ (cs ++ rest) = run ⟨.number part, frames⟩ rest := by
  obtain ⟨c, cs, rfl⟩ := List.exists_cons_of_ne_nil hne
  rw [List.cons_append, run_number (hfirst c (h c List.mem_cons_self))]
  exact run_digits hpart fun d hd => h d (List.mem_cons_of_mem _ hd)

theorem run_numberEnd {part : NumberPart} (hpart : part.isWhole) (h : EndsNumber rest) :
    run ⟨.number part, frames⟩ rest = run ⟨.after, frames⟩ rest := by
  rcases rest with _ | ⟨c, rest⟩
  · simp only [run, finish, hpart, Bool.not_true, Bool.false_eq_true, if_false]
  · obtain ⟨hdigit, hdot, hmark⟩ := h c rfl
    have hmove : part.move c = .ends := by
      cases part <;> simp_all [NumberPart.isWhole, NumberPart.move]
    simp only [run, step, hmove]

theorem run_whole {place : JsonPlace}
    (hzero : ∀ rest, step ⟨place, frames⟩ '0' rest = .goes ⟨.number .zero, frames⟩)
    (hnine : ∀ c rest, isOneToNine c → step ⟨place, frames⟩ c rest = .goes ⟨.number .whole, frames⟩)
    {whole : List Char} (h : WholeText whole) : ∃ part, (part = .zero ∨ part = .whole)
      ∧ ∀ rest, run ⟨place, frames⟩ (whole ++ rest) = run ⟨.number part, frames⟩ rest := by
  cases h with
  | zero => exact ⟨.zero, .inl rfl, fun rest => run_of_goes (hzero rest)⟩
  | digits hc hcs =>
    refine ⟨.whole, .inr rfl, fun rest => ?_⟩
    rw [List.cons_append, run_of_goes (hnine _ _ hc)]
    exact run_digits (fun d hd => by simp only [NumberPart.move, hd, if_true]) hcs

theorem run_places {part : NumberPart} (hpart : part = .zero ∨ part = .whole) {places : List Char}
    (h : PlacesText places) : ∃ next, (next = .zero ∨ next = .whole ∨ next = .places)
      ∧ ∀ frames rest,
        run ⟨.number part, frames⟩ (places ++ rest) = run ⟨.number next, frames⟩ rest := by
  cases h with
  | none => exact ⟨part, hpart.imp_right .inl, fun _ _ => rfl⟩
  | digits hne hcs =>
    refine ⟨.places, .inr (.inr rfl), fun frames rest => ?_⟩
    have hdot : part.move '.' = .goes .point := by rcases hpart with rfl | rfl <;> rfl
    rw [List.cons_append, run_number hdot]
    exact run_someDigits (fun c hc => by simp only [NumberPart.move, hc, if_true])
      (fun c hc => by simp only [NumberPart.move, hc, if_true]) hne hcs

theorem run_power {part : NumberPart} (hpart : part = .zero ∨ part = .whole ∨ part = .places)
    {power : List Char} (h : PowerText power) : ∃ last : NumberPart, last.isWhole
      ∧ ∀ frames rest,
        run ⟨.number part, frames⟩ (power ++ rest) = run ⟨.number last, frames⟩ rest := by
  have hmark {c : Char} (hc : isExponentMark c) : part.move c = .goes .mark := by
    simp only [isExponentMark, Bool.or_eq_true, beq_iff_eq] at hc
    rcases hpart with rfl | rfl | rfl <;> rcases hc with rfl | rfl <;> rfl
  have hpower (c : Char) (hc : c.isDigit) : NumberPart.power.move c = .goes .power := if_pos hc
  cases h with
  | none =>
    refine ⟨part, ?_, fun _ _ => rfl⟩
    rcases hpart with rfl | rfl | rfl <;> rfl
  | unsigned hm hne hcs =>
    refine ⟨.power, rfl, fun frames rest => ?_⟩
    have hunsigned (c : Char) (hc : c.isDigit) : isSign c = false := by
      by_contra hs
      simp only [isSign, Bool.not_eq_false, Bool.or_eq_true, beq_iff_eq] at hs
      rcases hs with rfl | rfl <;> exact absurd hc (by decide)
    rw [List.cons_append, run_number (hmark hm)]
    exact run_someDigits (fun c hc => by simp [NumberPart.move, hc, hunsigned c hc]) hpower hne hcs
  | @signed mark sign cs hm hs hne hcs =>
    refine ⟨.power, rfl, fun frames rest => ?_⟩
    have hsign : NumberPart.mark.move sign = .goes .sign := if_pos hs
    rw [List.cons_append, List.cons_append, run_number (hmark hm), run_number hsign]
    exact run_someDigits (fun c hc => by simp only [NumberPart.move, hc, if_true]) hpower hne hcs

theorem step_value_digit {c : Char} (h : isOneToNine c) (rest : List Char) :
    step ⟨.value, frames⟩ c rest = .goes ⟨.number .whole, frames⟩ := by
  have hne : ∀ d, isOneToNine d = false → c ≠ d := by
    rintro d hd rfl
    simp [h] at hd
  have hblank : isJsonBlank c = false := by
    simp only [isJsonBlank, Bool.or_eq_false_iff, beq_eq_false_iff_ne]
    exact ⟨⟨⟨hne _ rfl, hne _ rfl⟩, hne _ rfl⟩, hne _ rfl⟩
  simp only [step, hblank, begin, hne '[' rfl, hne '\x7b' rfl, hne '"' rfl, hne '-' rfl,
    hne '0' rfl, h, if_true, if_false, Bool.false_eq_true]

theorem run_jsonNumber {cs : List Char} (h : JsonNumber cs) (hrest : EndsNumber rest) :
    run ⟨.value, frames⟩ (cs ++ rest) = run ⟨.after, frames⟩ rest := by
  have hplain {place : JsonPlace} {whole places power : List Char}
      (hzero : ∀ rest, step ⟨place, frames⟩ '0' rest = .goes ⟨.number .zero, frames⟩)
      (hnine : ∀ c rest, isOneToNine c →
        step ⟨place, frames⟩ c rest = .goes ⟨.number .whole, frames⟩)
      (hwhole : WholeText whole) (hplaces : PlacesText places) (hpower : PowerText power) :
      run ⟨place, frames⟩ (whole ++ (places ++ power) ++ rest) = run ⟨.after, frames⟩ rest := by
    obtain ⟨part, hpart, hrun⟩ := run_whole hzero hnine hwhole
    obtain ⟨next, hnext, hrun'⟩ := run_places hpart hplaces
    obtain ⟨last, hlast, hrun''⟩ := run_power hnext hpower
    rw [List.append_assoc, hrun, List.append_assoc, hrun', hrun'', run_numberEnd hlast hrest]
  cases h with
  | unsigned hwhole hplaces hpower =>
    exact hplain (fun _ => rfl) (fun c _ hc => step_value_digit hc _) hwhole hplaces hpower
  | negative hwhole hplaces hpower =>
    rw [List.cons_append, run_of_goes (t := ⟨.number .minus, frames⟩) rfl]
    refine hplain (fun _ => rfl) (fun c _ hc => ?_) hwhole hplaces hpower
    have hzero : c ≠ '0' := by
      rintro rfl
      exact absurd hc (by decide)
    simp only [step, NumberPart.move, hzero, hc, if_true, if_false]

theorem isShort_of_four (x y z w : Char) (rest : List Char) :
    isShort (x :: y :: z :: w :: rest) = false := by
  have := x.utf8Size_pos
  have := y.utf8Size_pos
  have := z.utf8Size_pos
  have := w.utf8Size_pos
  simp only [isShort, List.take_succ_cons, List.take_zero, List.foldl_cons, List.foldl_nil]
  exact decide_eq_false (by omega)

theorem run_code {isName : Bool} {c : Char} (h : (hexDigit? c).isSome) (left : Nat) :
    run ⟨.code isName (left + 2), frames⟩ (c :: rest)
      = run ⟨.code isName (left + 1), frames⟩ rest := by
  apply run_of_goes
  simp only [step, Option.isNone_eq_false_iff.2 h, Bool.false_eq_true, if_false]
  rw [if_neg (by omega)]
  rfl

theorem run_lastCode {isName : Bool} {c : Char} (h : (hexDigit? c).isSome) :
    run ⟨.code isName 1, frames⟩ (c :: rest) = run ⟨.text isName, frames⟩ rest := by
  apply run_of_goes
  simp only [step, Option.isNone_eq_false_iff.2 h, Bool.false_eq_true, if_false, le_refl, if_true]

theorem run_stringText {cs : List Char} (h : StringText cs) (isName : Bool) :
    run ⟨.text isName, frames⟩ (cs ++ '"' :: rest)
      = run ⟨if isName then .colon else .after, frames⟩ rest := by
  induction h with
  | nil => rfl
  | @plain c cs hc _ ih =>
    obtain ⟨⟨hquote, hbackslash⟩, hcontrol⟩ : (c ≠ '"' ∧ c ≠ '\\') ∧ 0x20 ≤ c.toNat := by
      simpa [isPlain] using hc
    rw [List.cons_append, run_of_goes, ih]
    simp only [step, hquote, hbackslash, Nat.not_lt.2 hcontrol, if_false]
  | @escape e c cs he _ ih =>
    have hstep : step ⟨.escape isName, frames⟩ e (cs ++ '"' :: rest)
        = .goes ⟨.text isName, frames⟩ := by
      simp only [escapes, List.mem_cons, Prod.mk.injEq, List.not_mem_nil, or_false] at he
      rcases he with h | h | h | h | h | h | h | h <;> obtain ⟨rfl, -⟩ := h <;> rfl
    rw [List.cons_append, List.cons_append, run_of_goes (t := ⟨.escape isName, frames⟩) rfl,
      run_of_goes hstep, ih]
  | @code x y z w cs hcode _ ih =>
    have hu : step ⟨.escape isName, frames⟩ 'u' (x :: y :: z :: w :: (cs ++ '"' :: rest))
        = .goes ⟨.code isName 4, frames⟩ := by
      simp only [step, isShort_of_four, Bool.false_eq_true, if_true, if_false]
    simp only [List.cons_append]
    rw [run_of_goes (t := ⟨.escape isName, frames⟩) rfl, run_of_goes hu,
      run_code (hcode x (by simp)) 2, run_code (hcode y (by simp)) 1,
      run_code (hcode z (by simp)) 0, run_lastCode (hcode w (by simp)), ih]

theorem run_literal (l : Char) (left : List Char) :
    run ⟨.literal (l :: left), frames⟩ (l :: left ++ rest) = run ⟨.after, frames⟩ rest := by
  induction left generalizing l with
  | nil => exact run_of_goes (by simp only [step, if_true])
  | cons l' left ih =>
    rw [List.cons_append, run_of_goes (t := ⟨.literal (l' :: left), frames⟩), ih]
    simp only [step, if_true, reduceCtorEq, if_false]

end JsonScan

/-- A value begins with a character that is neither a blank nor the end of a list. -/
theorem JsonText.begins {v : List Char} (h : JsonText .value v) :
    ∃ c cs, v = c :: cs ∧ isJsonBlank c = false ∧ c ≠ ']' := by
  have hwhole {cs : List Char} (hcs : WholeText cs) (rest : List Char) :
      ∃ c cs', cs ++ rest = c :: cs' ∧ isJsonBlank c = false ∧ c ≠ ']' := by
    cases hcs with
    | zero => exact ⟨'0', rest, rfl, rfl, by decide⟩
    | @digits c cs hc hcs =>
      refine ⟨c, cs ++ rest, rfl, ?_, ?_⟩
      · by_contra hblank
        simp only [isJsonBlank, Bool.not_eq_false, Bool.or_eq_true, beq_iff_eq] at hblank
        rcases hblank with ((rfl | rfl) | rfl) | rfl <;> exact absurd hc (by decide)
      · rintro rfl
        exact absurd hc (by decide)
  cases h with
  | literal h =>
    simp only [List.mem_cons, List.not_mem_nil, or_false] at h
    rcases h with rfl | rfl | rfl <;> exact ⟨_, _, rfl, rfl, by decide⟩
  | number h =>
    cases h with
    | unsigned h _ _ => exact hwhole h _
    | negative _ _ _ => exact ⟨_, _, rfl, rfl, by decide⟩
  | text _ => exact ⟨_, _, rfl, rfl, by decide⟩
  | empty frame _ => cases frame <;> exact ⟨_, _, rfl, rfl, by decide⟩
  | @full frame _ _ => cases frame <;> exact ⟨_, _, rfl, rfl, by decide⟩

/-- Where the entries of a frame begin. -/
def JsonFrame.firstPlace : JsonFrame → JsonPlace
  | list => .firstItem
  | object => .firstName

/-- Where another entry is expected. -/
def JsonFrame.nextPlace : JsonFrame → JsonPlace
  | list => .value
  | object => .name

theorem JsonFrame.expects {frame : JsonFrame} {place : JsonPlace}
    (h : place = frame.firstPlace ∨ place = frame.nextPlace) :
    place ∈ [JsonPlace.value, .firstItem, .firstName, .name, .colon] := by
  rcases h with rfl | rfl <;> cases frame <;> simp [firstPlace, nextPlace]

namespace JsonScan

theorem run_opening (frame : JsonFrame) :
    run ⟨.value, frames⟩ (frame.opening :: rest)
      = run ⟨frame.firstPlace, frame :: frames⟩ rest := by
  cases frame <;> exact run_of_goes rfl

theorem run_closing (frame : JsonFrame) :
    run ⟨.after, frame :: frames⟩ (frame.closing :: rest) = run ⟨.after, frames⟩ rest := by
  cases frame <;> exact run_of_goes rfl

theorem run_closing_first (frame : JsonFrame) :
    run ⟨frame.firstPlace, frame :: frames⟩ (frame.closing :: rest)
      = run ⟨.after, frames⟩ rest := by
  cases frame <;> exact run_of_goes rfl

theorem run_comma (frame : JsonFrame) :
    run ⟨.after, frame :: frames⟩ (',' :: rest) = run ⟨frame.nextPlace, frame :: frames⟩ rest := by
  cases frame <;> exact run_of_goes rfl

/-- The first item of a list is read as any other value. -/
theorem run_firstItem {v : List Char} (h : JsonText .value v) :
    run ⟨.firstItem, frames⟩ (v ++ rest) = run ⟨.value, frames⟩ (v ++ rest) := by
  obtain ⟨c, cs, rfl, hblank, hclosing⟩ := h.begins
  have hstep : step ⟨.firstItem, frames⟩ c (cs ++ rest) = step ⟨.value, frames⟩ c (cs ++ rest) := by
    simp only [step, hblank, hclosing, Bool.false_eq_true, if_false]
  rw [List.cons_append, run, run, hstep]

theorem run_name {place : JsonPlace} (h : place = .firstName ∨ place = .name) {name : List Char}
    (hname : StringText name) (b b' : Blanks) :
    run ⟨place, frames⟩ ('"' :: (name ++ '"' :: (b.text ++ ':' :: (b'.text ++ rest))))
      = run ⟨.value, frames⟩ rest := by
  have hquote : ∀ cs, run ⟨place, frames⟩ ('"' :: cs) = run ⟨.text true, frames⟩ cs := by
    rcases h with rfl | rfl <;> exact fun cs => run_of_goes rfl
  have hcolon : ∀ cs, run ⟨.colon, frames⟩ (':' :: cs) = run ⟨.value, frames⟩ cs :=
    fun cs => run_of_goes rfl
  rw [hquote, run_stringText hname true, if_pos rfl, run_blanks_expecting (by simp), hcolon,
    run_blanks_expecting (by simp)]

end JsonScan

/-- What a part does to a scan, wherever it stands and whatever is behind it. -/
def JsonPart.Skips : JsonPart → List Char → Prop
  | value, cs => ∀ frames rest, EndsNumber rest →
    JsonScan.run ⟨.value, frames⟩ (cs ++ rest) = JsonScan.run ⟨.after, frames⟩ rest
  | entry frame, cs => ∀ frames rest place, place = frame.firstPlace ∨ place = frame.nextPlace →
    EndsNumber rest → JsonScan.run ⟨place, frame :: frames⟩ (cs ++ rest)
      = JsonScan.run ⟨.after, frame :: frames⟩ rest
  | entries frame, cs => ∀ frames rest place, place = frame.firstPlace ∨ place = frame.nextPlace →
    JsonScan.run ⟨place, frame :: frames⟩ (cs ++ frame.closing :: rest)
      = JsonScan.run ⟨.after, frames⟩ rest

theorem JsonText.skips {part : JsonPart} {cs : List Char} (h : JsonText part cs) :
    part.Skips cs := by
  induction h with
  | literal h =>
    intro frames rest _
    simp only [List.mem_cons, List.not_mem_nil, or_false] at h
    rcases h with rfl | rfl | rfl <;>
      exact (JsonScan.run_of_goes rfl).trans (JsonScan.run_literal _ _)
  | number h => exact fun frames rest hrest => JsonScan.run_jsonNumber h hrest
  | @text cs h =>
    intro frames rest _
    have hquote : JsonScan.run ⟨.value, frames⟩ ('"' :: (cs ++ '"' :: rest))
        = JsonScan.run ⟨.text false, frames⟩ (cs ++ '"' :: rest) := JsonScan.run_of_goes rfl
    rw [List.cons_append, List.append_assoc, List.singleton_append, hquote,
      JsonScan.run_stringText h false]
    rfl
  | empty frame b =>
    intro frames rest _
    rw [List.cons_append, List.append_assoc, List.singleton_append, JsonScan.run_opening,
      JsonScan.run_blanks_expecting (JsonFrame.expects (.inl rfl)),
      JsonScan.run_closing_first]
  | @full frame cs _ ih =>
    intro frames rest _
    rw [List.cons_append, List.append_assoc, List.singleton_append, JsonScan.run_opening,
      ih frames rest _ (.inl rfl)]
  | @item before behind cs h ih =>
    intro frames rest place hplace hrest
    have hvalue : JsonScan.run ⟨place, .list :: frames⟩ (cs ++ (behind.text ++ rest))
        = JsonScan.run ⟨.value, .list :: frames⟩ (cs ++ (behind.text ++ rest)) := by
      rcases hplace with rfl | rfl
      · exact JsonScan.run_firstItem h
      · rfl
    rw [List.append_assoc, List.append_assoc,
      JsonScan.run_blanks_expecting (JsonFrame.expects hplace),
      hvalue, ih _ _ (behind.endsNumber hrest), JsonScan.run_blanks_after]
  | member before behindName beforeValue behind hname h ih =>
    intro frames rest place hplace hrest
    simp only [List.append_assoc, List.cons_append]
    rw [JsonScan.run_blanks_expecting (JsonFrame.expects hplace),
      JsonScan.run_name hplace hname, ih _ _ (behind.endsNumber hrest), JsonScan.run_blanks_after]
  | @last frame cs _ ih =>
    intro frames rest place hplace
    rw [ih frames _ place hplace (by cases frame <;> exact .cons rfl (by decide) rfl _),
      JsonScan.run_closing]
  | more _ _ ih ih' =>
    intro frames rest place hplace
    rw [List.append_assoc, List.cons_append,
      ih frames _ place hplace (.cons rfl (by decide) rfl _), JsonScan.run_comma,
      ih' frames rest _ (.inr rfl)]

/-- A value is skipped to its end, with any nesting in it. -/
theorem skipValue_of_jsonText {v rest : List Char} (h : JsonText .value v)
    (hrest : EndsNumber rest) (b : Blanks) : skipValue (b.text ++ (v ++ rest)) = .ok rest := by
  rw [skipValue, JsonScan.run_blanks_expecting (by simp), h.skips [] rest hrest,
    JsonScan.run_after]

theorem surrogatePair_eq {high low : Nat} {c : Char}
    (h : c.toNat = 0x10000 + (high - 0xd800) * 0x400 + (low - 0xdc00)) :
    surrogatePair high low = c := by
  have hsum : (high - 0xd800) * 0x400 + (low - 0xdc00) + 0x10000 = c.toNat := by omega
  rw [surrogatePair, hsum, Char.ofNat_toNat]

theorem isSurrogate_toNat (c : Char) :
    isLowSurrogate c.toNat = false ∧ isHighSurrogate c.toNat = false := by
  have hvalid : c.toNat < 0xd800 ∨ (0xdfff < c.toNat ∧ c.toNat < 0x110000) := c.valid
  simp only [isLowSurrogate, isHighSurrogate, Bool.and_eq_false_iff, decide_eq_false_iff_not]
  omega

theorem readText_of_spells {text cs : List Char} (h : Spells text cs) (read rest : List Char) :
    readText read (text ++ '"' :: rest) = .ok (read.reverse ++ cs, rest) := by
  induction h generalizing read with
  | nil => simp [readText]
  | @plain c text cs hc _ ih =>
    rw [List.cons_append, readText_cons hc, ih]
    simp
  | @escape e c text cs he _ ih =>
    have hstep (cs : List Char) : readText read ('\\' :: e :: cs) = readText (c :: read) cs := by
      simp only [escapes, List.mem_cons, Prod.mk.injEq, List.not_mem_nil, or_false] at he
      rcases he with h | h | h | h | h | h | h | h <;> obtain ⟨rfl, rfl⟩ := h <;> rfl
    rw [List.cons_append, List.cons_append, hstep, ih]
    simp
  | @code x y z w c text cs hcode _ ih =>
    obtain ⟨hlow, hhigh⟩ := isSurrogate_toNat c
    simp only [List.cons_append, readText, hcode, hlow, hhigh, Char.ofNat_toNat, ih,
      List.reverse_cons, List.append_assoc, List.nil_append, Bool.false_eq_true, if_false]
  | @pair x y z w x' y' z' w' c high low text cs hhigh hlow hhigh' hlow' hc _ ih =>
    have hone : isLowSurrogate high = false := by
      simp only [isLowSurrogate, Bool.and_eq_false_iff, decide_eq_false_iff_not]
      omega
    have htwo : isHighSurrogate high := by simpa [isHighSurrogate] using hhigh'
    have hthree : isLowSurrogate low := by simpa [isLowSurrogate] using hlow'
    simp only [List.cons_append, readText, hhigh, hlow, hone, htwo, hthree, surrogatePair_eq hc, ih,
      List.reverse_cons, List.append_assoc, List.nil_append, Bool.false_eq_true, if_true,
      if_false]

end HostDialing

import HostDialing.Proofs.Text.Numerals
import HostDialing.Text.Quoted

/-!
# Quoted text

A quotation is read back whatever stands behind it (`quotation?_quoted`): a backslash stands before
each quote and backslash inside, so that neither can be taken for the end of the quotation or for
the beginning of an escape, and the digits of a code point go up to their brace. All of a quotation
prints (`prints_quoted`), and what prints has no control character (`Prints.any_isControl`).
-/

namespace HostDialing

/-- The characters from the space to the tilde. -/
def isPrintableAscii (c : Char) : Bool := 0x20 ≤ c.toNat && c.toNat < 0x7f

/-- A text without a character that does not print. -/
def Prints (cs : List Char) : Prop := ∀ c ∈ cs, isUnprintable c = false

theorem isUnprintable_of_isControl {c : Char} (h : isControl c) : isUnprintable c := by
  have hlow : (0x0, 0x1f) ∈ unprintableRanges := by decide +kernel
  have hhigh : (0x7f, 0xa0) ∈ unprintableRanges := by decide +kernel
  simp only [isControl, Bool.or_eq_true, Bool.and_eq_true, decide_eq_true_eq] at h
  simp only [isUnprintable, CharRanges.has, List.any_eq_true, Bool.and_eq_true, decide_eq_true_eq]
  rcases h with h | ⟨h, h'⟩
  · exact ⟨_, hlow, by omega, by omega⟩
  · exact ⟨_, hhigh, by omega, by omega⟩

theorem not_isUnprintable_of_ascii {c : Char} (h : isPrintableAscii c) :
    isUnprintable c = false := by
  have houtside : unprintableRanges.all fun r => r.2 < 0x20 || 0x7f ≤ r.1 := by decide +kernel
  simp only [List.all_eq_true, Bool.or_eq_true, decide_eq_true_eq] at houtside
  simp only [isPrintableAscii, Bool.and_eq_true, decide_eq_true_eq] at h
  simp only [isUnprintable, CharRanges.has, List.any_eq_false, Bool.and_eq_true,
    decide_eq_true_eq, not_and]
  intro r hr hfirst
  have := houtside r hr
  omega

theorem Prints.any_isControl {cs : List Char} (h : Prints cs) : cs.any isControl = false := by
  rw [List.any_eq_false]
  intro c hc hcontrol
  have := isUnprintable_of_isControl hcontrol
  simp [h c hc] at this

theorem Prints.append {cs ds : List Char} (hcs : Prints cs) (hds : Prints ds) :
    Prints (cs ++ ds) := fun c hc => (List.mem_append.1 hc).elim (hcs c) (hds c)

theorem prints_of_ascii {cs : List Char} (h : cs.all isPrintableAscii) : Prints cs := fun c hc =>
  not_isUnprintable_of_ascii (List.all_eq_true.1 h c hc)

theorem isPrintableAscii_of_isSome_hexDigit? {c : Char} (h : (hexDigit? c).isSome) :
    isPrintableAscii c := by
  simp only [isPrintableAscii, Bool.and_eq_true, decide_eq_true_eq]
  unfold hexDigit? at h
  split_ifs at h with hdigit hlower hupper
  · simp only [Char.isDigit, Bool.and_eq_true, decide_eq_true_eq, UInt32.le_iff_toNat_le] at hdigit
    change 48 ≤ c.toNat ∧ c.toNat ≤ 57 at hdigit
    omega
  · change 97 ≤ c.toNat ∧ c.toNat ≤ 102 at hlower
    omega
  · change 65 ≤ c.toNat ∧ c.toNat ≤ 70 at hupper
    omega
  · cases h

theorem prints_hexadecimal (n : Nat) : Prints (hexadecimal n) := by
  refine prints_of_ascii (List.all_eq_true.2 fun c hc => isPrintableAscii_of_isSome_hexDigit? ?_)
  exact isSome_hexDigit?_of_hexDigits? (by simp [hexDigits?_hexadecimal n]) hc

/-- The character that a letter behind a backslash stands for. -/
def unescaped? : Char → Option Char
  | '"' => some '"'
  | '\\' => some '\\'
  | 'n' => some '\n'
  | 'r' => some '\r'
  | 't' => some '\t'
  | '0' => some '\x00'
  | _ => none

/-- The character with a code point; some numbers are none. -/
def ofCodePoint? (n : Nat) : Option Char :=
  if (Char.ofNat n).toNat = n then some (Char.ofNat n) else none

/-- Where in a quotation a reader stands: before a character, behind a backslash, or among the
digits of a code point, which denote a number so far. -/
inductive QuotationPlace where
  | character
  | escape
  | code (n : Nat)

/-- Puts a character before what was read. -/
def withChar (c : Char) (read : Option (List Char × List Char)) : Option (List Char × List Char) :=
  read.map fun (cs, rest) => (c :: cs, rest)

/-- Reads to the closing quote: the text, and what is behind the quote. -/
def readQuotation : QuotationPlace → List Char → Option (List Char × List Char)
  | _, [] => none
  | .character, c :: cs =>
    if c = '"' then some ([], cs)
    else if c = '\\' then readQuotation .escape cs
    else withChar c (readQuotation .character cs)
  | .escape, 'u' :: '\x7b' :: cs => readQuotation (.code 0) cs
  | .escape, c :: cs => (unescaped? c).bind fun d => withChar d (readQuotation .character cs)
  | .code n, c :: cs =>
    if c = '\x7d' then (ofCodePoint? n).bind fun d => withChar d (readQuotation .character cs)
    else (hexDigit? c).bind fun digit => readQuotation (.code (16 * n + digit)) cs

/-- The quoted text at the beginning of a text, and what is behind it. -/
def quotation? : List Char → Option (String × List Char)
  | '"' :: cs => (readQuotation .character cs).map fun (read, rest) => (String.ofList read, rest)
  | _ => none

theorem ofCodePoint?_toNat (c : Char) : ofCodePoint? c.toNat = some c := by
  simp [ofCodePoint?, Char.ofNat_toNat]

theorem readQuotation_letter {letter c : Char} (h : unescaped? letter = some c) (cs : List Char) :
    readQuotation .character ('\\' :: letter :: cs)
      = withChar c (readQuotation .character cs) := by
  have hu : letter ≠ 'u' := by
    rintro rfl
    cases h
  rw [readQuotation, if_neg (by decide), if_pos rfl, readQuotation, h, Option.bind_some]
  exact fun _ hletter => absurd hletter hu

theorem readQuotation_digits {digits : List Char} {m n : Nat}
    (h : digits.foldlM (fun n c => (hexDigit? c).map (16 * n + ·)) m = some n) (cs : List Char) :
    readQuotation (.code m) (digits ++ cs) = readQuotation (.code n) cs := by
  induction digits generalizing m with
  | nil =>
    obtain rfl : m = n := Option.some.inj h
    rfl
  | cons c digits ih =>
    rw [List.foldlM_cons] at h
    obtain ⟨next, hnext, h⟩ := Option.bind_eq_some_iff.1 h
    obtain ⟨digit, hdigit, rfl⟩ := Option.map_eq_some_iff.1 hnext
    have hbrace : c ≠ '\x7d' := by
      rintro rfl
      cases hdigit
    rw [List.cons_append, readQuotation, if_neg hbrace, hdigit, Option.bind_some, ih h]

theorem readQuotation_code (c : Char) (cs : List Char) :
    readQuotation .character ('\\' :: 'u' :: '\x7b' :: (hexadecimal c.toNat ++ '\x7d' :: cs))
      = withChar c (readQuotation .character cs) := by
  have hdigits := readQuotation_digits (hexDigits?_hexadecimal c.toNat) ('\x7d' :: cs)
  rw [readQuotation, if_neg (by decide), if_pos rfl, readQuotation, hdigits, readQuotation,
    if_pos rfl, ofCodePoint?_toNat, Option.bind_some]

/-- How a character stands between quotes. -/
inductive Spelling (c : Char) : List Char → Prop
  | plain (quote : c ≠ '"') (backslash : c ≠ '\\') (prints : isUnprintable c = false) :
      Spelling c [c]
  | letter {letter : Char} (h : unescaped? letter = some c) : Spelling c ['\\', letter]
  | code : Spelling c ('\\' :: 'u' :: '\x7b' :: (hexadecimal c.toNat ++ ['\x7d']))

theorem spelling_quotedChar (c : Char) : Spelling c (quotedChar c) := by
  unfold quotedChar
  split
  case h_7 hquote hbackslash _ _ _ _ =>
    split_ifs with h
    · exact .code
    · simp only [Bool.or_eq_true, not_or, Bool.not_eq_true] at h
      exact .plain hquote hbackslash h.2
  all_goals exact .letter rfl

theorem Spelling.readQuotation {c : Char} {spelled : List Char} (h : Spelling c spelled)
    (cs : List Char) :
    readQuotation .character (spelled ++ cs) = withChar c (readQuotation .character cs) := by
  cases h with
  | plain hquote hbackslash =>
    rw [List.singleton_append, HostDialing.readQuotation, if_neg hquote, if_neg hbackslash]
  | letter h => exact readQuotation_letter h cs
  | code => simpa using readQuotation_code c cs

theorem Spelling.prints {c : Char} {spelled : List Char} (h : Spelling c spelled) :
    Prints spelled := by
  cases h with
  | plain _ _ hprints => exact fun d hd => List.mem_singleton.1 hd ▸ hprints
  | letter h =>
    refine prints_of_ascii ?_
    unfold unescaped? at h
    split at h
    case h_7 => cases h
    all_goals decide
  | code =>
    have hlead : Prints ['\\', 'u', '\x7b'] := prints_of_ascii (by decide)
    have hend : Prints ['\x7d'] := prints_of_ascii (by decide)
    exact hlead.append ((prints_hexadecimal c.toNat).append hend)

theorem readQuotation_quoted (read rest : List Char) :
    readQuotation .character (read.flatMap quotedChar ++ '"' :: rest) = some (read, rest) := by
  induction read with
  | nil => rfl
  | cons c read ih =>
    rw [List.flatMap_cons, List.append_assoc, (spelling_quotedChar c).readQuotation, ih]
    rfl

/-- A quotation ends where its text does, whatever is behind it. -/
theorem quotation?_quoted (s : String) (rest : List Char) :
    quotation? ((quoted s).toList ++ rest) = some (s, rest) := by
  have hchars : (quoted s).toList ++ rest
      = '"' :: (s.toList.flatMap quotedChar ++ '"' :: rest) := by
    simp [quoted]
  rw [hchars, quotation?, readQuotation_quoted]
  simp only [Option.map_some, String.ofList_toList]

theorem prints_quoted (s : String) : Prints (quoted s).toList := by
  have hquote : Prints ['"'] := prints_of_ascii (by decide)
  have hbody : Prints (s.toList.flatMap quotedChar) := by
    intro c hc
    obtain ⟨d, -, hd⟩ := List.mem_flatMap.1 hc
    exact (spelling_quotedChar d).prints c hd
  simpa [quoted] using hquote.append (hbody.append hquote)

end HostDialing

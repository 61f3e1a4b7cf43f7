import HostDialing.Dial.Target
import HostDialing.Proofs.Text.Numerals
import HostDialing.Proofs.Text.Offsets
import Mathlib.Data.List.TakeDrop
import Mathlib.Data.List.TakeWhile

/-!
# The grammar of dial targets

What is read as a target is what `Target.Written` says, and for every other text `Target.Faulty`
says what is wrong with it: the first test that it fails. Every text has one of four forms
(`Target.text_cases`) and `Target.split` has an equation for each of them.

A target may as well be found by byte offsets, from the first closing bracket or the last colon
(`Target.splitAtOffsets`). No text makes this cut beyond its end or inside a character, and what it
finds is the same.
-/

namespace HostDialing

/-- A port as it is written: one or more ASCII digits, behind an optional plus sign. -/
def PortText (cs : List Char) (port : UInt16) : Prop :=
  ∃ digits, (cs = digits ∨ cs = '+' :: digits) ∧ digits ≠ [] ∧ (∀ c ∈ digits, c.isDigit)
    ∧ Nat.ofDigitChars 10 digits 0 = port.toNat

/-- The texts of a target. -/
inductive Target.Written : List Char → Target → Prop where
  | bracketed {host text : List Char} {port : UInt16} (hhost : ']' ∉ host)
      (hport : PortText text port) :
      Written ('[' :: (host ++ ']' :: ':' :: text)) ⟨String.ofList host, port⟩
  | bare {host text : List Char} {port : UInt16} (hbare : (host ++ ':' :: text).head? ≠ some '[')
      (hhost : ':' ∉ host) (hport : PortText text port) :
      Written (host ++ ':' :: text) ⟨String.ofList host, port⟩

/-- What is wrong with a text that is none of a target. -/
inductive Target.Faulty : List Char → (reason : String) → Prop where
  | openBracket {cs : List Char} (h : ']' ∉ cs) : Faulty ('[' :: cs) "missing ']' in address"
  | bracketedAlone {host rest : List Char} (hhost : ']' ∉ host)
      (hrest : rest.head? ≠ some ':' ∨ rest = [':']) :
      Faulty ('[' :: (host ++ ']' :: rest)) "missing port in address"
  | bracketedPort {host text : List Char} (hhost : ']' ∉ host) (htext : text ≠ [])
      (hport : ∀ port, ¬ PortText text port) :
      Faulty ('[' :: (host ++ ']' :: ':' :: text)) "invalid port"
  | noColon {cs : List Char} (hbare : cs.head? ≠ some '[') (h : ':' ∉ cs) :
      Faulty cs "missing port in address"
  | colons {cs : List Char} (hbare : cs.head? ≠ some '[') (h : 2 ≤ cs.count ':') :
      Faulty cs "too many colons in address"
  | bareAlone {host : List Char} (hbare : (host ++ [':']).head? ≠ some '[') (hhost : ':' ∉ host) :
      Faulty (host ++ [':']) "missing port in address"
  | barePort {host text : List Char} (hbare : (host ++ ':' :: text).head? ≠ some '[')
      (hcolon : (host ++ ':' :: text).count ':' = 1) (htext : text ≠ [])
      (hport : ∀ port, ¬ PortText text port) :
      Faulty (host ++ ':' :: text) "invalid port"

theorem port?_eq_some_iff {cs : List Char} {port : UInt16} :
    port? cs = some port ↔ PortText cs port := by
  simp only [port?, Option.bind_eq_some_iff, unsigned?_eq_some_iff, digits?_eq_some_iff, PortText]
  constructor
  · rintro ⟨n, ⟨digits, hcs, hne, hd, hn⟩, h⟩
    split_ifs at h with hlt
    refine ⟨digits, hcs, hne, hd, ?_⟩
    rw [hn, ← Option.some_inj.1 h, UInt16.toNat_ofNatLT]
  · rintro ⟨digits, hcs, hne, hd, hn⟩
    refine ⟨port.toNat, ⟨digits, hcs, hne, hd, hn⟩, ?_⟩
    rw [dif_pos port.toNat_lt]
    exact congrArg some (UInt16.toNat_inj.1 UInt16.toNat_ofNatLT)

theorem PortText.ne_nil {cs : List Char} {port : UInt16} (h : PortText cs port) : cs ≠ [] := by
  obtain ⟨digits, rfl | rfl, hne, -⟩ := h
  · exact hne
  · exact List.cons_ne_nil _ _

theorem PortText.colon_notMem {cs : List Char} {port : UInt16} (h : PortText cs port) :
    ':' ∉ cs := by
  obtain ⟨digits, hcs, -, hd, -⟩ := h
  have hdigits : ':' ∉ digits := fun hm => absurd (hd _ hm) (by decide)
  rcases hcs with rfl | rfl
  · exact hdigits
  · simpa using hdigits

theorem span_ne_of_not_mem {d : Char} {cs : List Char} (h : d ∉ cs) :
    cs.span (· ≠ d) = (cs, []) := by
  have hall : ∀ c ∈ cs, decide (c ≠ d) = true := fun c hc => by
    simpa using fun hcd : c = d => h (hcd ▸ hc)
  rw [List.span_eq_takeWhile_dropWhile, List.takeWhile_eq_self_iff.2 hall,
    List.dropWhile_eq_nil_iff.2 hall]

theorem span_ne_append {d : Char} {a : List Char} (h : d ∉ a) (b : List Char) :
    (a ++ d :: b).span (· ≠ d) = (a, d :: b) := by
  have hall : ∀ c ∈ a, decide (c ≠ d) = true := fun c hc => by
    simpa using fun hcd : c = d => h (hcd ▸ hc)
  rw [List.span_eq_takeWhile_dropWhile, List.takeWhile_append_of_pos hall,
    List.dropWhile_append_of_pos hall]
  simp

theorem Target.text_cases (cs : List Char) :
    (∃ rest, cs = '[' :: rest ∧ ']' ∉ rest)
    ∨ (∃ host rest, cs = '[' :: (host ++ ']' :: rest) ∧ ']' ∉ host)
    ∨ (cs.head? ≠ some '[' ∧ ':' ∉ cs)
    ∨ ∃ host text, cs = host ++ ':' :: text ∧ cs.head? ≠ some '[' ∧ ':' ∉ host := by
  by_cases hb : cs.head? = some '['
  · obtain ⟨rest, rfl⟩ := List.head?_eq_some_iff.1 hb
    by_cases hm : ']' ∈ rest
    · obtain ⟨host, after, rfl, hhost⟩ := List.eq_append_cons_of_mem hm
      exact .inr (.inl ⟨host, after, rfl, hhost⟩)
    · exact .inl ⟨rest, rfl, hm⟩
  · by_cases hm : ':' ∈ cs
    · obtain ⟨host, text, rfl, hhost⟩ := List.eq_append_cons_of_mem hm
      exact .inr (.inr (.inr ⟨host, text, rfl, hb, hhost⟩))
    · exact .inr (.inr (.inl ⟨hb, hm⟩))

theorem Target.split_open {rest : List Char} (h : ']' ∉ rest) :
    split ('[' :: rest) = .error .missingBracket := by
  simp only [split, span_ne_of_not_mem h]

theorem Target.split_bracketed {host : List Char} (h : ']' ∉ host) (port : List Char) :
    split ('[' :: (host ++ ']' :: ':' :: port)) = .ok (host, port) := by
  simp only [split, span_ne_append h]

theorem Target.split_bracketedAlone {host rest : List Char} (h : ']' ∉ host)
    (hrest : rest.head? ≠ some ':') :
    split ('[' :: (host ++ ']' :: rest)) = .error .missingPort := by
  simp only [split, span_ne_append h]
  split
  · rename_i heq
    simp at heq
  · rename_i heq
    obtain ⟨-, -, rfl⟩ : host = _ ∧ ']' = _ ∧ rest = _ := by simpa using heq
    simp at hrest
  · rfl

theorem Target.split_noColon {cs : List Char} (hb : cs.head? ≠ some '[') (h : ':' ∉ cs) :
    split cs = .error .missingPort := by
  unfold split
  split
  · simp at hb
  · simp only [span_ne_of_not_mem h]

theorem Target.split_bare {host text : List Char} (hb : (host ++ ':' :: text).head? ≠ some '[')
    (h : ':' ∉ host) :
    split (host ++ ':' :: text)
      = if ':' ∈ text then .error .tooManyColons else .ok (host, text) := by
  unfold split
  split
  · rename_i heq
    simp [heq] at hb
  · simp only [span_ne_append h]

theorem Target.ofChars_of_error {cs : List Char} {fault : AddressFault}
    (h : split cs = .error fault) : ofChars cs = .error fault := by
  simp only [ofChars, h]
  rfl

theorem Target.ofChars_of_ok {cs host text : List Char} (h : split cs = .ok (host, text)) :
    ofChars cs =
      if text = [] then .error .missingPort
      else match port? text with
        | some port => .ok ⟨String.ofList host, port⟩
        | none => .error .invalidPort := by
  simp only [ofChars, h]
  rfl

theorem Target.ofChars_of_portText {cs host text : List Char} {port : UInt16}
    (h : split cs = .ok (host, text)) (hport : PortText text port) :
    ofChars cs = .ok ⟨String.ofList host, port⟩ := by
  simp only [ofChars_of_ok h, if_neg hport.ne_nil, port?_eq_some_iff.2 hport]

theorem Target.ofChars_of_not_portText {cs host text : List Char} (h : split cs = .ok (host, text))
    (hne : text ≠ []) (hport : ∀ port, ¬ PortText text port) :
    ofChars cs = .error .invalidPort := by
  have hnone : port? text = none :=
    Option.eq_none_iff_forall_ne_some.2 fun port hp => hport port (port?_eq_some_iff.1 hp)
  simp only [ofChars_of_ok h, if_neg hne, hnone]

theorem Target.ofChars_of_nil {cs host : List Char} (h : split cs = .ok (host, [])) :
    ofChars cs = .error .missingPort :=
  (ofChars_of_ok h).trans (if_pos rfl)

theorem Target.Written.ofChars_eq {cs : List Char} {t : Target} (h : Written cs t) :
    ofChars cs = .ok t := by
  cases h with
  | bracketed hhost hport => exact ofChars_of_portText (split_bracketed hhost _) hport
  | bare hbare hhost hport =>
    refine ofChars_of_portText ?_ hport
    rw [split_bare hbare hhost, if_neg hport.colon_notMem]

theorem Target.Faulty.ofChars_eq {cs : List Char} {reason : String} (h : Faulty cs reason) :
    ∃ fault, ofChars cs = .error fault ∧ fault.message = reason := by
  cases h with
  | openBracket h => exact ⟨_, ofChars_of_error (split_open h), rfl⟩
  | bracketedAlone hhost hrest =>
    rcases hrest with hrest | rfl
    · exact ⟨_, ofChars_of_error (split_bracketedAlone hhost hrest), rfl⟩
    · exact ⟨_, ofChars_of_nil (split_bracketed hhost []), rfl⟩
  | bracketedPort hhost htext hport =>
    exact ⟨_, ofChars_of_not_portText (split_bracketed hhost _) htext hport, rfl⟩
  | noColon hbare h => exact ⟨_, ofChars_of_error (split_noColon hbare h), rfl⟩
  | colons hbare h =>
    obtain ⟨host, text, rfl, hhost⟩ :=
      List.eq_append_cons_of_mem (List.count_pos_iff.1 (Nat.lt_of_lt_of_le Nat.zero_lt_two h))
    rw [List.count_append, List.count_eq_zero_of_not_mem hhost, List.count_cons_self] at h
    have htext : ':' ∈ text := List.count_pos_iff.1 (by omega)
    refine ⟨.tooManyColons, ofChars_of_error ?_, rfl⟩
    rw [split_bare hbare hhost, if_pos htext]
  | @bareAlone host hbare hhost =>
    have hsplit : split (host ++ [':']) = .ok (host, []) := by
      rw [split_bare hbare hhost, if_neg List.not_mem_nil]
    exact ⟨_, ofChars_of_nil hsplit, rfl⟩
  | @barePort host text hbare hcolon htext hport =>
    rw [List.count_append, List.count_cons_self] at hcolon
    have hhost : ':' ∉ host := List.count_eq_zero.1 (by omega)
    have htext' : ':' ∉ text := List.count_eq_zero.1 (by omega)
    have hsplit : split (host ++ ':' :: text) = .ok (host, text) := by
      rw [split_bare hbare hhost, if_neg htext']
    exact ⟨_, ofChars_of_not_portText hsplit htext hport, rfl⟩

/-- Every text writes a target, or something is wrong with it. -/
theorem Target.written_or_faulty (cs : List Char) :
    (∃ t, Written cs t) ∨ ∃ reason, Faulty cs reason := by
  rcases text_cases cs with ⟨rest, rfl, h⟩ | ⟨host, rest, rfl, hhost⟩ | ⟨hbare, h⟩
    | ⟨host, text, rfl, hbare, hhost⟩
  · exact .inr ⟨_, .openBracket h⟩
  · by_cases hrest : rest.head? = some ':'
    case neg => exact .inr ⟨_, .bracketedAlone hhost (.inl hrest)⟩
    obtain ⟨text, rfl⟩ := List.head?_eq_some_iff.1 hrest
    by_cases htext : text = []
    · exact .inr ⟨_, .bracketedAlone hhost (.inr (by rw [htext]))⟩
    by_cases hport : ∃ port, PortText text port
    · exact .inl ⟨_, .bracketed hhost hport.choose_spec⟩
    · exact .inr ⟨_, .bracketedPort hhost htext (not_exists.1 hport)⟩
  · exact .inr ⟨_, .noColon hbare h⟩
  · have hcount : (host ++ ':' :: text).count ':' = text.count ':' + 1 := by
      rw [List.count_append, List.count_eq_zero_of_not_mem hhost, List.count_cons_self,
        Nat.zero_add]
    by_cases hcolon : ':' ∈ text
    · have := List.count_pos_iff.2 hcolon
      exact .inr ⟨_, .colons hbare (by omega)⟩
    by_cases htext : text = []
    · subst htext
      exact .inr ⟨_, .bareAlone hbare hhost⟩
    by_cases hport : ∃ port, PortText text port
    · exact .inl ⟨_, .bare hbare hhost hport.choose_spec⟩
    · rw [List.count_eq_zero_of_not_mem hcolon] at hcount
      exact .inr ⟨_, .barePort hbare hcount htext (not_exists.1 hport)⟩

/-- Finds the host and the port of a target by byte offsets. Nothing is found where the text has to
be cut at an offset at which it cannot be cut. -/
def Target.splitAtOffsets : List Char → Option (Except AddressFault (List Char × List Char))
  | '[' :: cs =>
    match offsetOf? ']' cs with
    | none => some (.error .missingBracket)
    | some n =>
      (cutAt? cs (n + 1)).bind fun (_, behind) =>
        match behind with
        | ':' :: port => (cutAt? cs n).map fun (host, _) => .ok (host, port)
        | _ => some (.error .missingPort)
  | cs =>
    match lastOffsetOf? ':' cs with
    | none => some (.error .missingPort)
    | some n =>
      (cutAt? cs n).bind fun (host, _) =>
        if ':' ∈ host then some (.error .tooManyColons)
        else (cutAt? cs (n + 1)).map fun (_, port) => .ok (host, port)

/-- A text can be cut before and behind a character of one byte. -/
theorem cutAt?_byteSize {d : Char} (hd : d.utf8Size = 1) (a b : List Char) :
    cutAt? (a ++ d :: b) (byteSize a) = some (a, d :: b)
      ∧ cutAt? (a ++ d :: b) (byteSize a + 1) = some (a ++ [d], b) := by
  refine ⟨cutAt?_eq_some_iff.2 ⟨rfl, rfl⟩, cutAt?_eq_some_iff.2 ⟨by simp, ?_⟩⟩
  rw [byteSize_append, byteSize_cons, byteSize_nil, hd]

theorem Target.splitAtOffsets_bracketed {host : List Char} (h : ']' ∉ host) (rest : List Char) :
    splitAtOffsets ('[' :: (host ++ ']' :: rest))
      = some (split ('[' :: (host ++ ']' :: rest))) := by
  obtain ⟨hcut, hbehind⟩ := cutAt?_byteSize (d := ']') rfl host rest
  simp only [splitAtOffsets, offsetOf?_append h, hbehind, Option.bind_some]
  split
  · rw [hcut, split_bracketed h, Option.map_some]
  · rename_i hrest
    rw [split_bracketedAlone h]
    intro hhead
    obtain ⟨port, rfl⟩ := List.head?_eq_some_iff.1 hhead
    exact hrest port rfl

theorem Target.splitAtOffsets_bare {host port : List Char}
    (hb : (host ++ ':' :: port).head? ≠ some '[') (h : ':' ∉ port) :
    splitAtOffsets (host ++ ':' :: port) = some (split (host ++ ':' :: port)) := by
  obtain ⟨hcut, hbehind⟩ := cutAt?_byteSize (d := ':') rfl host port
  unfold splitAtOffsets
  split
  · rename_i heq
    simp [heq] at hb
  simp only [lastOffsetOf?_append host h, hcut, hbehind, Option.bind_some, Option.map_some]
  by_cases hhost : ':' ∈ host
  · obtain ⟨host, text, rfl, hfirst⟩ := List.eq_append_cons_of_mem hhost
    rw [if_pos hhost]
    rw [List.append_assoc, List.cons_append] at hb ⊢
    rw [split_bare hb hfirst, if_pos (by simp)]
  · rw [if_neg hhost, split_bare hb hhost, if_neg h]

theorem Target.splitAtOffsets_eq (cs : List Char) : splitAtOffsets cs = some (split cs) := by
  rcases text_cases cs with ⟨rest, rfl, h⟩ | ⟨host, rest, rfl, hhost⟩ | ⟨hbare, h⟩
    | ⟨host, text, rfl, hbare, -⟩
  · simp only [splitAtOffsets, offsetOf?_eq_none h, split_open h]
  · exact splitAtOffsets_bracketed hhost rest
  · unfold splitAtOffsets
    split
    · simp at hbare
    · simp only [lastOffsetOf?_eq_none h, split_noColon hbare h]
  · have hm : ':' ∈ host ++ ':' :: text := by simp
    obtain ⟨host', port, heq, hport⟩ := exists_eq_append_of_mem_last hm
    rw [heq] at hbare ⊢
    exact splitAtOffsets_bare hbare hport

theorem Target.parse_eq_ok_iff {addr : String} {t : Target} :
    Target.parse addr = .ok t ↔ ofChars addr.toList = .ok t := by
  unfold parse
  split <;> simp_all

theorem Target.parse_eq_error_iff {addr : String} {e : DialError} :
    Target.parse addr = .error e
      ↔ ∃ fault, ofChars addr.toList = .error fault ∧ e = .addressFormat addr fault := by
  unfold parse
  split
  · simp_all
  · rename_i fault h
    simp [h, eq_comm]

/-- What is read as a target and what is refused, and for which reason. The text is never cut beyond
its end or inside a character, where the encoding in bytes lets no text be cut. -/
theorem Target.parse_grammar (addr : String) :
    (∀ t, Target.parse addr = .ok t ↔ Written addr.toList t)
    ∧ (∀ e, Target.parse addr = .error e →
      ∃ fault, e = .addressFormat addr fault ∧ Faulty addr.toList fault.message)
    ∧ (∀ reason, Faulty addr.toList reason →
      ∃ fault, Target.parse addr = .error (.addressFormat addr fault) ∧ fault.message = reason)
    ∧ splitAtOffsets addr.toList = some (split addr.toList)
    ∧ ∀ cs n, (cutAt? cs n).isSome ↔ String.Pos.Raw.IsValid (String.ofList cs) ⟨n⟩ := by
  have hcases := written_or_faulty addr.toList
  refine ⟨fun t => ?_, fun e he => ?_, fun reason h => ?_, splitAtOffsets_eq addr.toList,
    fun cs n => isSome_cutAt?_iff⟩
  · rw [parse_eq_ok_iff]
    refine ⟨fun h => ?_, fun h => h.ofChars_eq⟩
    rcases hcases with ⟨t', hw⟩ | ⟨reason, hf⟩
    · obtain rfl : t' = t := Except.ok.inj (hw.ofChars_eq.symm.trans h)
      exact hw
    · obtain ⟨fault, hfault, -⟩ := hf.ofChars_eq
      simp [h] at hfault
  · obtain ⟨fault, h, rfl⟩ := parse_eq_error_iff.1 he
    refine ⟨fault, rfl, ?_⟩
    rcases hcases with ⟨t, hw⟩ | ⟨reason, hf⟩
    · have := hw.ofChars_eq
      simp [h] at this
    · obtain ⟨fault', hfault, rfl⟩ := hf.ofChars_eq
      obtain rfl : fault = fault' := Except.error.inj (h.symm.trans hfault)
      exact hf
  · obtain ⟨fault, hfault, hreason⟩ := h.ofChars_eq
    exact ⟨fault, parse_eq_error_iff.2 ⟨fault, hfault, rfl⟩, hreason⟩

/-- The first bracket that closes ends the host, whatever stands in it. -/
example : Target.ofChars "[a[:1]:+080".toList = .ok ⟨"a[:1", 80⟩ := by decide +kernel

end HostDialing

import HostDialing.Proofs.Dial.Grammar

/-!
# Targets and their texts

A host is written in brackets if there is a colon in it, while a text is read as bracketed if a
bracket stands at its beginning. So a host and a port are read back from their text, unless a colon
puts brackets around a host that has a closing one itself, or none puts them around a host that
begins with an opening one (`Target.parse_joinHostPort_iff`). The host of a target that was read can
only be of the second kind, and then its text is no target at all.
-/

namespace HostDialing

theorem portText_decimal (port : UInt16) : PortText (decimal port.toNat) port := by
  obtain ⟨hne, hd, hv⟩ := digits?_eq_some_iff.1 (digits?_decimal port.toNat)
  exact ⟨decimal port.toNat, .inl rfl, hne, hd, hv⟩

theorem joinHostPort_of_colon {host : String} (h : ':' ∈ host.toList) (port : UInt16) :
    (joinHostPort host port).toList
      = '[' :: (host.toList ++ ']' :: ':' :: decimal port.toNat) := by
  simp [joinHostPort, h]

theorem joinHostPort_of_noColon {host : String} (h : ':' ∉ host.toList) (port : UInt16) :
    (joinHostPort host port).toList = host.toList ++ ':' :: decimal port.toNat := by
  simp [joinHostPort, h]

namespace Target

/-- The texts of a target, told by the characters of its host. -/
theorem written_iff {cs : List Char} {t : Target} :
    Written cs t ↔ ∃ text, PortText text t.port
      ∧ (']' ∉ t.host.toList ∧ cs = '[' :: (t.host.toList ++ ']' :: ':' :: text)
        ∨ ':' ∉ t.host.toList ∧ cs.head? ≠ some '[' ∧ cs = t.host.toList ++ ':' :: text) := by
  constructor
  · rintro (⟨hhost, hport⟩ | ⟨hbare, hhost, hport⟩)
    · refine ⟨_, hport, .inl ?_⟩
      rw [String.toList_ofList]
      exact ⟨hhost, rfl⟩
    · refine ⟨_, hport, .inr ?_⟩
      rw [String.toList_ofList]
      exact ⟨hhost, hbare, rfl⟩
  · obtain ⟨host, port⟩ := t
    rintro ⟨text, hport, ⟨hhost, rfl⟩ | ⟨hhost, hbare, rfl⟩⟩
    · simpa using Written.bracketed hhost hport
    · simpa using Written.bare hbare hhost hport

theorem parse_of_written {addr : String} {t : Target} (h : Written addr.toList t) :
    Target.parse addr = .ok t :=
  parse_eq_ok_iff.2 h.ofChars_eq

theorem written_of_parse {addr : String} {t : Target} (h : Target.parse addr = .ok t) :
    Written addr.toList t := by
  have hchars := parse_eq_ok_iff.1 h
  rcases written_or_faulty addr.toList with ⟨t', hw⟩ | ⟨reason, hf⟩
  · obtain rfl : t' = t := Except.ok.inj (hw.ofChars_eq.symm.trans hchars)
    exact hw
  · obtain ⟨fault, hfault, -⟩ := hf.ofChars_eq
    simp [hchars] at hfault

theorem written_joinHostPort_of_colon {host : String} (h : ':' ∈ host.toList) (port : UInt16) :
    Written (joinHostPort host port).toList ⟨host, port⟩ ↔ ']' ∉ host.toList := by
  rw [written_iff, joinHostPort_of_colon h]
  constructor
  · rintro ⟨text, -, ⟨hhost, -⟩ | ⟨hhost, -⟩⟩
    · exact hhost
    · exact absurd h hhost
  · exact fun hhost => ⟨_, portText_decimal port, .inl ⟨hhost, rfl⟩⟩

theorem written_joinHostPort_of_noColon {host : String} (h : ':' ∉ host.toList) (port : UInt16) :
    Written (joinHostPort host port).toList ⟨host, port⟩ ↔ host.toList.head? ≠ some '[' := by
  have hport := portText_decimal port
  have hhead : (host.toList ++ ':' :: decimal port.toNat).head? = some '['
      ↔ host.toList.head? = some '[' := by
    cases host.toList <;> simp
  rw [written_iff, joinHostPort_of_noColon h]
  constructor
  · rintro ⟨text, -, ⟨-, heq⟩ | ⟨-, hbare, -⟩⟩
    · -- the host would end where its colon stands, two characters further on
      have heq : host.toList ++ ':' :: decimal port.toNat
          = ('[' :: (host.toList ++ [']'])) ++ ':' :: text := by
        simpa using heq
      obtain ⟨hhost, -⟩ := (List.append_cons_inj_of_notMem h hport.colon_notMem).1 heq
      have := congrArg List.length hhost
      simp only [List.length_cons, List.length_append, List.length_nil] at this
      omega
    · exact fun hb => hbare (hhead.2 hb)
  · exact fun hb => ⟨_, hport, .inr ⟨h, fun hbare => hb (hhead.1 hbare), rfl⟩⟩

/-- The hosts that are read back from their text. -/
theorem parse_joinHostPort_iff (host : String) (port : UInt16) :
    Target.parse (joinHostPort host port) = .ok ⟨host, port⟩
      ↔ ':' ∈ host.toList ∧ ']' ∉ host.toList
        ∨ ':' ∉ host.toList ∧ host.toList.head? ≠ some '[' := by
  rw [show Target.parse (joinHostPort host port) = .ok ⟨host, port⟩
    ↔ Written (joinHostPort host port).toList ⟨host, port⟩ from
      ⟨written_of_parse, parse_of_written⟩]
  by_cases h : ':' ∈ host.toList
  · simp [written_joinHostPort_of_colon h, h]
  · simp [written_joinHostPort_of_noColon h, h]

/-- A host that was read has no closing bracket in it, or neither a colon nor an opening bracket at
its beginning. -/
theorem Written.host_cases {cs : List Char} {t : Target} (h : Written cs t) :
    ']' ∉ t.host.toList ∨ ':' ∉ t.host.toList ∧ t.host.toList.head? ≠ some '[' := by
  obtain ⟨text, -, ⟨hhost, -⟩ | ⟨hhost, hbare, rfl⟩⟩ := written_iff.1 h
  · exact .inl hhost
  · refine .inr ⟨hhost, fun hb => hbare ?_⟩
    obtain ⟨rest, hrest⟩ := List.head?_eq_some_iff.1 hb
    rw [hrest]
    rfl

/-- The text of a target whose host opens a bracket that nothing closes. -/
theorem parse_text_of_open {t : Target} (hopen : t.host.toList.head? = some '[')
    (hcolon : ':' ∉ t.host.toList) (hclose : ']' ∉ t.host.toList) :
    Target.parse t.text = .error (.addressFormat t.text .missingBracket) := by
  obtain ⟨rest, hrest⟩ := List.head?_eq_some_iff.1 hopen
  have hdigits : ']' ∉ decimal t.port.toNat := fun hm =>
    absurd ((digits?_eq_some_iff.1 (digits?_decimal t.port.toNat)).2.1 _ hm) (by decide)
  have htext : t.text.toList = '[' :: (rest ++ ':' :: decimal t.port.toNat) := by
    rw [text, joinHostPort_of_noColon hcolon, hrest]
    rfl
  have hnone : ']' ∉ rest ++ ':' :: decimal t.port.toNat := by
    rw [hrest] at hclose
    simp only [List.mem_cons, not_or] at hclose
    simp [hclose.2, hdigits]
  refine parse_eq_error_iff.2 ⟨.missingBracket, ?_, rfl⟩
  rw [htext]
  exact ofChars_of_error (split_open hnone)

/-- Which hosts and ports are read back from their text. So the text of a target that was read is
read as that target, unless the host begins with a bracket and has no colon in it, in which case
the bracket is found to be open; it is never read as another target. -/
theorem text_parses_back :
    (∀ host port, Target.parse (joinHostPort host port) = .ok ⟨host, port⟩
      ↔ ':' ∈ host.toList ∧ ']' ∉ host.toList
        ∨ ':' ∉ host.toList ∧ host.toList.head? ≠ some '[')
    ∧ ∀ addr t, Target.parse addr = .ok t →
      (¬ (t.host.toList.head? = some '[' ∧ ':' ∉ t.host.toList) → Target.parse t.text = .ok t)
      ∧ (t.host.toList.head? = some '[' ∧ ':' ∉ t.host.toList →
        ∃ fault, Target.parse t.text = .error (.addressFormat t.text fault)
          ∧ fault.message = "missing ']' in address")
      ∧ ∀ t', Target.parse t.text = .ok t' → t' = t := by
  refine ⟨parse_joinHostPort_iff, fun addr t h => ?_⟩
  have hhost := (written_of_parse h).host_cases
  have hback : ¬ (t.host.toList.head? = some '[' ∧ ':' ∉ t.host.toList) →
      Target.parse t.text = .ok t := by
    intro hexception
    refine (parse_joinHostPort_iff t.host t.port).2 ?_
    by_cases hcolon : ':' ∈ t.host.toList
    · exact .inl ⟨hcolon, hhost.resolve_right fun hbare => hbare.1 hcolon⟩
    · exact .inr ⟨hcolon, fun hopen => hexception ⟨hopen, hcolon⟩⟩
  have hfault : t.host.toList.head? = some '[' ∧ ':' ∉ t.host.toList →
      Target.parse t.text = .error (.addressFormat t.text .missingBracket) := by
    rintro ⟨hopen, hcolon⟩
    exact parse_text_of_open hopen hcolon (hhost.resolve_right fun hbare => hbare.2 hopen)
  refine ⟨hback, fun hexception => ⟨_, hfault hexception, rfl⟩, fun t' h' => ?_⟩
  by_cases hexception : t.host.toList.head? = some '[' ∧ ':' ∉ t.host.toList
  · simp [hfault hexception] at h'
  · exact Except.ok.inj (h'.symm.trans (hback hexception))

/-- The second bracket belongs to the host, and is all that is left of the two in the text. -/
theorem text_of_open_bracket :
    Target.parse "[[x]:80" = .ok ⟨"[x", 80⟩
      ∧ ∃ fault, Target.parse (Target.text ⟨"[x", 80⟩)
          = .error (.addressFormat (Target.text ⟨"[x", 80⟩) fault)
        ∧ fault.message = "missing ']' in address" := by
  have hparse : Target.parse "[[x]:80" = .ok ⟨"[x", 80⟩ :=
    parse_eq_ok_iff.2 (by decide +kernel)
  exact ⟨hparse, (text_parses_back.2 _ _ hparse).2.1 (by decide +kernel)⟩

end Target

end HostDialing

import HostDialing.Environment.File
import Mathlib.Data.List.TakeWhile

/-!
# The lines of an environment file

A file is read through what its lines say (`fileAssignments_eq`). Behind a text of whole lines the
lines of the rest are those that it has on its own (`lineContents_append`), and a blank line or a
comment between the two says nothing (`IsIdleLine.lineContents`).
-/

namespace HostDialing

deriving instance DecidableEq for Assignment, LineContent

/-- What a line says; one that is no text, or that is left open at the end of its file, is
malformed. -/
def LineContent.ofLogical : Option (List Char) → LineContent
  | none => malformed
  | some line => ofLine line

def lineContents (bytes : List UInt8) : List LineContent :=
  (logicalLines [] .complete (lineTexts bytes)).map .ofLogical

/-- What the lines of a file say. -/
def fileLines (content : List UInt8) : List LineContent := lineContents (withoutMark content)

@[simp]
def LineContent.isSound : LineContent → Bool
  | malformed => false
  | _ => true

@[simp]
def LineContent.assignment? : LineContent → Option Assignment
  | assignment a => some a
  | _ => none

/-- The assignments before the first malformed line. -/
def soundAssignments (lines : List LineContent) : List Assignment :=
  (lines.takeWhile (·.isSound)).filterMap (·.assignment?)

theorem assignmentsOf_eq (lines : List (Option (List Char))) :
    assignmentsOf lines = soundAssignments (lines.map .ofLogical) := by
  induction lines with
  | nil => rfl
  | cons line lines ih =>
    rcases line with _ | line
    · rfl
    rcases h : LineContent.ofLine line with a | _ | _ <;>
      simp [assignmentsOf, soundAssignments, LineContent.ofLogical, h, ih]

theorem fileAssignments_eq (content : List UInt8) :
    fileAssignments content = soundAssignments (fileLines content) := by
  rw [fileAssignments, assignmentsOf_eq, fileLines, lineContents]

/-- What stands behind a malformed line does not count. -/
theorem soundAssignments_append (first rest : List LineContent) :
    soundAssignments (first ++ rest) = soundAssignments first
      ++ if first.all (·.isSound) then soundAssignments rest else [] := by
  induction first with
  | nil => rfl
  | cons line first ih =>
    rcases line with a | _ | _
    · exact congrArg (a :: ·) ih
    · exact ih
    · rfl

/-- A line says nothing if and only if it is blank or a comment. -/
theorem LineContent.ofLine_eq_nothing_iff {line : List Char} :
    LineContent.ofLine line = .nothing ↔ trim line = [] ∨ (trim line).head? = some '#' := by
  unfold ofLine
  split
  · rename_i h
    simp [h]
  · rename_i h
    simp [h]
  · rename_i hnil hcomment
    refine iff_of_false ?_ ?_
    · repeat' split
      all_goals simp
    · rintro (h | h)
      · exact hnil h
      · obtain ⟨cs, h⟩ := List.head?_eq_some_iff.1 h
        exact hcomment cs h

/-- Whole lines: they end with a line break, if there is anything in them, are text and leave
nothing open. -/
def Whole (bytes : List UInt8) : Prop :=
  (∀ b ∈ bytes.getLast?, b = 0x0a) ∧ none ∉ logicalLines [] .complete (lineTexts bytes)

theorem physicalLines_ne_nil {bytes : List UInt8} (h : bytes ≠ []) : physicalLines bytes ≠ [] := by
  rcases bytes with _ | ⟨b, bytes⟩
  · exact absurd rfl h
  · rw [physicalLines]
    split
    · simp
    · split <;> simp

theorem physicalLines_append {bytes : List UInt8} (h : ∀ b ∈ bytes.getLast?, b = 0x0a)
    (rest : List UInt8) :
    physicalLines (bytes ++ rest) = physicalLines bytes ++ physicalLines rest := by
  induction bytes with
  | nil => rfl
  | cons b bytes ih =>
    have ih := ih fun d hd => h d (by
      rcases bytes with _ | ⟨d', bytes⟩
      · simp at hd
      · simpa using hd)
    rw [List.cons_append, physicalLines, physicalLines, ih]
    split_ifs with hb
    · rfl
    · have hne : bytes ≠ [] := by
        rintro rfl
        exact hb (h b rfl)
      obtain ⟨l, ls, hlines⟩ := List.exists_cons_of_ne_nil (physicalLines_ne_nil hne)
      rw [hlines]
      rfl

theorem logicalLines_append {pending : List Char} {s : LineState}
    {lines : List (Option (List Char))} (hs : s = .complete → pending = [])
    (h : none ∉ logicalLines pending s lines) (rest : List (Option (List Char))) :
    logicalLines pending s (lines ++ rest)
      = logicalLines pending s lines ++ logicalLines [] .complete rest := by
  induction lines generalizing pending s with
  | nil =>
    rw [logicalLines] at h ⊢
    split_ifs at h ⊢ with hc
    · rw [hs hc, hc]
      rfl
    · simp at h
  | cons line lines ih =>
    rcases line with _ | line
    · simp [logicalLines] at h
    simp only [List.cons_append, logicalLines] at h ⊢
    split_ifs at h ⊢ with hcomment hclosed
    · exact ih (fun _ => rfl) h
    · rw [ih (fun _ => rfl) fun hm => h (List.mem_cons_of_mem _ hm)]
      rfl
    · exact ih (fun hc => absurd hc hclosed) h

theorem lineContents_append {bytes : List UInt8} (h : Whole bytes) (rest : List UInt8) :
    lineContents (bytes ++ rest) = lineContents bytes ++ lineContents rest := by
  have htexts : lineTexts (bytes ++ rest) = lineTexts bytes ++ lineTexts rest := by
    rw [lineTexts, physicalLines_append h.1, List.map_append]
    rfl
  rw [lineContents, htexts, logicalLines_append (fun _ => rfl) h.2, List.map_append]
  rfl

/-- A blank line or a comment, with its line break. -/
def IsIdleLine (line : List UInt8) : Prop :=
  ∃ body, line = utf8Bytes (body ++ ['\n']) ∧ '\n' ∉ body
    ∧ ((∀ c ∈ body, isWhiteSpace c) ∨ (trimStart body).head? = some '#')

theorem physicalLines_line {body : List UInt8} (h : 0x0a ∉ body) :
    physicalLines (body ++ [0x0a]) = [body ++ [0x0a]] := by
  induction body with
  | nil => rfl
  | cons b body ih =>
    rw [List.mem_cons, not_or] at h
    rw [List.cons_append, physicalLines, if_neg (Ne.symm h.1), ih h.2]

theorem lineTexts_line {body : List Char} (h : '\n' ∉ body) :
    lineTexts (utf8Bytes (body ++ ['\n'])) = [some (body ++ ['\n'])] := by
  have hbytes : utf8Bytes (body ++ ['\n']) = utf8Bytes body ++ [0x0a] := utf8Bytes_append _ _
  have hline := utf8Text?_utf8Bytes (body ++ ['\n'])
  rw [hbytes] at hline ⊢
  rw [lineTexts, physicalLines_line (lineBreak_notMem_utf8Bytes h), List.map_singleton, hline]

theorem LineState.outside_of_isWhiteSpace {c : Char} (h : isWhiteSpace c) :
    LineState.outside c = .complete := by
  have hne : ∀ d, isWhiteSpace d = false → c ≠ d := by
    rintro d hd rfl
    simp [h] at hd
  rw [outside, if_neg (hne _ rfl), if_neg (hne _ rfl), if_neg (hne _ rfl)]

/-- White space opens nothing. -/
theorem LineState.scan_blank {body : List Char} (h : ∀ c ∈ body, isWhiteSpace c) {s : LineState}
    (hs : s = .complete ∨ s = .blank) :
    s.scan (body ++ ['\n']) = (body ++ ['\n'], .complete) := by
  induction body generalizing s with
  | nil => rcases hs with rfl | rfl <;> rfl
  | cons c body ih =>
    have hc := h c List.mem_cons_self
    have hnext : ∃ t, s.next? c = some t ∧ (t = .complete ∨ t = .blank) := by
      rcases hs with rfl | rfl
      · rw [next?, outside_of_isWhiteSpace hc]
        split_ifs
        · exact ⟨_, rfl, .inr rfl⟩
        · exact ⟨_, rfl, .inl rfl⟩
      · have hcomment : c ≠ '#' := by
          rintro rfl
          simp [isWhiteSpace] at hc
        rw [next?, if_neg hcomment, outside_of_isWhiteSpace hc]
        exact ⟨_, rfl, .inl rfl⟩
    obtain ⟨t, ht, ht'⟩ := hnext
    rw [List.cons_append, scan, ht]
    simp only [ih (fun c hc => h c (List.mem_cons_of_mem _ hc)) ht']

theorem trimStart_of_isWhiteSpace {cs : List Char} (h : ∀ c ∈ cs, isWhiteSpace c) :
    trimStart cs = [] := by
  rw [trimStart, List.dropWhile_eq_nil_iff]
  exact h

theorem IsIdleLine.logicalLines {line : List UInt8} (h : IsIdleLine line) :
    HostDialing.logicalLines [] .complete (lineTexts line) = []
      ∨ ∃ l, HostDialing.logicalLines [] .complete (lineTexts line) = [some l]
        ∧ LineContent.ofLine l = .nothing := by
  obtain ⟨body, rfl, hbreak, hblank | hcomment⟩ := h
  · have hbreaks : ∀ c ∈ body ++ ['\n'], isWhiteSpace c := by
      intro c hc
      rcases List.mem_append.1 hc with hc | hc
      · exact hblank c hc
      · rw [List.mem_singleton.1 hc]
        rfl
    refine .inr ⟨body ++ ['\n'], ?_, LineContent.ofLine_eq_nothing_iff.2 (.inl ?_)⟩
    · rw [lineTexts_line hbreak, HostDialing.logicalLines, List.nil_append,
        trimStart_of_isWhiteSpace hbreaks, LineState.scan_blank hblank (.inl rfl)]
      rfl
    · rw [trim, trimStart_of_isWhiteSpace hbreaks]
      rfl
  · obtain ⟨cs, hcs⟩ := List.head?_eq_some_iff.1 hcomment
    have hstart : trimStart (body ++ ['\n']) = '#' :: (cs ++ ['\n']) := by
      rw [trimStart] at hcs ⊢
      rw [List.dropWhile_append, hcs]
      rfl
    refine .inl ?_
    rw [lineTexts_line hbreak, HostDialing.logicalLines, List.nil_append, hstart]
    rfl

theorem IsIdleLine.whole {line : List UInt8} (h : IsIdleLine line) : Whole line := by
  refine ⟨?_, ?_⟩
  · obtain ⟨body, rfl, -⟩ := h
    have hbytes : utf8Bytes (body ++ ['\n']) = utf8Bytes body ++ [0x0a] := utf8Bytes_append _ _
    simp [hbytes]
  · rcases h.logicalLines with h | ⟨l, h, -⟩ <;> simp [h]

theorem IsIdleLine.lineContents {line : List UInt8} (h : IsIdleLine line) :
    HostDialing.lineContents line = [] ∨ HostDialing.lineContents line = [.nothing] := by
  rcases h.logicalLines with h | ⟨l, h, hl⟩
  · exact .inl (by rw [HostDialing.lineContents, h]; rfl)
  · exact .inr (by rw [HostDialing.lineContents, h, List.map_singleton, LineContent.ofLogical, hl])

end HostDialing

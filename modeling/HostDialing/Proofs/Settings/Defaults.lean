import HostDialing.Proofs.Environment.Lines
import HostDialing.Proofs.Settings.Agreement

/-!
# Settings with a file of defaults

Of a file that stands next to the program only the first assignment of each of the two variables
counts, if the environment has no text for the variable and no line before the assignment is
malformed (`Environment.text?_withFile_of_gives`). So lines may be added that say nothing or that
assign again, and everything behind a malformed line may be changed. Lines that assign something
else count as well where one of them gives its variable a text with a NUL, since the program then
ends (`Settings.environment_before_file`).
-/

namespace HostDialing

/-- The environment in which a variable that has no text holds the one for it, if there is one. -/
def Environment.withDefault (e : Environment) (name : String) : Option String → Environment
  | none => e
  | some value => e.orHolding name value

/-- The environment with a default for each of the two variables. -/
def Environment.withDefaults (e : Environment) (text? : Setting → Option String) : Environment :=
  (e.withDefault Setting.refreshInterval.key (text? .refreshInterval)).withDefault
    Setting.lookupTimeout.key (text? .lookupTimeout)

/-- The first assignment of a variable in any of the lines before the first malformed one. -/
def firstAssignment? (name : String) (lines : List LineContent) : Option Assignment :=
  (soundAssignments lines).find? (·.name = name)

/-- The first assignment of the variable gives it this text, referring to no variable; or there is
no assignment, and no text. -/
def GivesFirst (lines : List LineContent) (name : String) (text? : Option String) : Prop :=
  (firstAssignment? name lines).map (·.value) = text?.map fun text => text.toList.map .char

instance (lines : List LineContent) (name : String) (text? : Option String) :
    Decidable (GivesFirst lines name text?) :=
  inferInstanceAs (Decidable (_ = _))

theorem Setting.key_inj {s s' : Setting} : s.key = s'.key ↔ s = s' := by
  cases s <;> cases s' <;> decide +kernel

theorem Environment.text?_withDefault (e : Environment) (name : String) (text? : Option String)
    (other : String) : (e.withDefault name text?).text? other
      = (e.text? other).or (if name = other then text? else none) := by
  cases text? with
  | none => rw [withDefault, ite_self, Option.or_none]
  | some value => exact e.text?_orHolding name value other

theorem Environment.text?_withDefaults (e : Environment) (text? : Setting → Option String)
    (s : Setting) : (e.withDefaults text?).text? s.key = (e.text? s.key).or (text? s) := by
  simp only [withDefaults, text?_withDefault, Setting.key_inj]
  cases s <;> simp

/-- Settings come of the texts of the two variables. -/
theorem Settings.ofEnvironment_congr {e e' : Environment}
    (h : ∀ s : Setting, e.text? s.key = e'.text? s.key) :
    Settings.ofEnvironment e = Settings.ofEnvironment e' := by
  have hoverride : ∀ (c : Settings) (s : Setting), c.override s e = c.override s e' := by
    intro c s
    simp only [override, h]
  simp only [ofEnvironment, hoverride]

/-- What a variable is assigned first, in a file that can be loaded. -/
theorem Environment.assigned?_of_gives {e e' : Environment} {lines : List LineContent}
    {name : String} {text? : Option String} (h : GivesFirst lines name text?)
    (hload : e.load? (soundAssignments lines) = some e') :
    e.assigned? name (soundAssignments lines) = text? := by
  rw [GivesFirst] at h
  rcases hfirst : firstAssignment? name lines with _ | a <;> rw [hfirst] at h
  · rw [Option.map_eq_none_iff.1 h.symm]
    exact assigned?_of_forall_ne (by simpa using List.find?_eq_none.1 hfirst)
  · obtain ⟨text, rfl, hvalue⟩ := Option.map_eq_some_iff.1 h.symm
    obtain ⟨hname, before, rest, hsplit, hbefore⟩ := List.find?_eq_some_iff_append.1 hfirst
    have hvalue : a.value = text.toList.map .char := hvalue.symm
    rw [hsplit, load?_append] at hload
    obtain ⟨e₁, hload, -⟩ := Option.bind_eq_some_iff.1 hload
    rw [hsplit, assigned?_append (by simpa using hbefore) a (by simpa using hname), hload, hvalue,
      Option.map_some, expand_plain]

/-- An assignment counts for nothing to other variables. -/
theorem firstAssignment?_insert {name : String} {a : Assignment} (h : a.name ≠ name)
    (first rest : List LineContent) :
    firstAssignment? name (first ++ .assignment a :: rest)
      = firstAssignment? name (first ++ rest) := by
  have hcons : soundAssignments (.assignment a :: rest) = a :: soundAssignments rest := rfl
  rw [firstAssignment?, firstAssignment?, soundAssignments_append, soundAssignments_append, hcons]
  split_ifs
  · simp [List.find?_append, h]
  · rfl

theorem fileLines_of_append {content first : List UInt8} (h : Whole first) (rest : List UInt8)
    (hcontent : withoutMark content = first ++ rest) :
    fileLines content = lineContents first ++ lineContents rest := by
  rw [fileLines, hcontent, lineContents_append h]

theorem Environment.withFile?_some (e : Environment) (content : List UInt8) :
    e.withFile? (some content) = e.load? (soundAssignments (fileLines content)) := by
  rw [withFile?, fileAssignments_eq]

theorem Environment.text?_withFile_of_gives {e e' : Environment} {content : List UInt8}
    {name : String} {text? : Option String} (hfile : e.withFile? (some content) = some e')
    (h : e.text? name = none → GivesFirst (fileLines content) name text?) :
    e'.text? name = (e.text? name).or text? := by
  rw [withFile?_some] at hfile
  rw [text?_load hfile]
  rcases hname : e.text? name with _ | value
  · rw [assigned?_of_gives (h hname) hfile]
  · rw [Option.some_or, Option.some_or]

section load

variable {e : Environment} {content content' : List UInt8}

theorem Settings.ofEnvironmentAndFile_of_load
    (h : e.load? (soundAssignments (fileLines content))
      = e.load? (soundAssignments (fileLines content'))) :
    Settings.ofEnvironmentAndFile e (some content)
      = Settings.ofEnvironmentAndFile e (some content') := by
  rw [ofEnvironmentAndFile, ofEnvironmentAndFile, Environment.withFile?_some,
    Environment.withFile?_some, h]

theorem Settings.ofEnvironmentAndFile_eq_none_iff :
    Settings.ofEnvironmentAndFile e (some content) = none
      ↔ e.load? (soundAssignments (fileLines content)) = none := by
  rw [ofEnvironmentAndFile, Option.map_eq_none_iff, Environment.withFile?_some]

theorem Settings.ofEnvironmentAndFile_eq_none_iff_of_plain
    (h : ∀ a ∈ soundAssignments (fileLines content), a.IsPlain) :
    Settings.ofEnvironmentAndFile e (some content) = none
      ↔ ∃ name, ∃ value : String, e.text? name = none
        ∧ GivesFirst (fileLines content) name (some value) ∧ '\x00' ∈ value.toList := by
  rw [ofEnvironmentAndFile_eq_none_iff, Environment.load?_eq_none_iff_of_plain h]
  constructor
  · rintro ⟨a, text, hunset, hfind, htext, hnul⟩
    refine ⟨a.name, text, hunset, ?_, hnul⟩
    rw [GivesFirst, firstAssignment?, hfind, Option.map_some, htext, Option.map_some]
  · rintro ⟨name, value, hunset, hgives, hnul⟩
    obtain ⟨a, hfind, hvalue⟩ := Option.map_eq_some_iff.1 hgives
    obtain rfl : a.name = name := by simpa using List.find?_some hfind
    exact ⟨a, value, hunset, hfind, hvalue, hnul⟩

end load

/-- Where the program does not end, the first texts that a file gives the two variables are all
that counts of it. -/
theorem Settings.ofEnvironmentAndFile_of_gives {e : Environment} {content : List UInt8}
    {text? : Setting → Option String}
    (h : ∀ s : Setting, e.text? s.key = none → GivesFirst (fileLines content) s.key (text? s))
    (hne : Settings.ofEnvironmentAndFile e (some content) ≠ none) :
    Settings.ofEnvironmentAndFile e (some content)
      = some (Settings.ofEnvironment (e.withDefaults text?)) := by
  rcases hfile : e.withFile? (some content) with _ | e'
  · exact absurd (by rw [ofEnvironmentAndFile, hfile, Option.map_none]) hne
  · rw [ofEnvironmentAndFile, hfile, Option.map_some, Option.some_inj]
    refine ofEnvironment_congr fun s => ?_
    rw [Environment.text?_withFile_of_gives hfile (h s), Environment.text?_withDefaults]

/-- The longer of two files has a text between some whole lines and the rest of the other; a byte
order mark before them does not count. -/
structure HasBetween (line first rest longer shorter : List UInt8) : Prop where
  whole : Whole first
  longer : withoutMark longer = first ++ (line ++ rest)
  shorter : withoutMark shorter = first ++ rest

theorem HasBetween.fileLines {line first rest longer shorter : List UInt8}
    (h : HasBetween line first rest longer shorter) (hline : Whole line) :
    HostDialing.fileLines longer = lineContents first ++ (lineContents line ++ lineContents rest)
      ∧ HostDialing.fileLines shorter = lineContents first ++ lineContents rest := by
  rw [fileLines_of_append h.whole _ h.longer, fileLines_of_append h.whole _ h.shorter,
    lineContents_append hline]
  exact ⟨rfl, rfl⟩

/-- A file next to the program counts for as much as the first text that it gives each of the two
variables, before its first malformed line: if the program does not end, the settings are those of
the environment in which a variable without text, but no other, is set to that. It ends if and only
if an assignment, of whatever variable, would give one that has no text by then a text with a NUL;
where no value refers to a variable, these are first assignments. Where a value does, it has their
texts behind the assignments before it. Blank lines, comments and assignments of a variable that has
a text by then make no difference, and neither does anything behind a malformed line. Assignments of
other variables make none between programs that do not end. -/
theorem Settings.environment_before_file (e : Environment) :
    (∀ content (text? : Setting → Option String),
      (∀ s : Setting, e.text? s.key = none → GivesFirst (fileLines content) s.key (text? s)) →
      Settings.ofEnvironmentAndFile e (some content) ≠ none →
      Settings.ofEnvironmentAndFile e (some content)
        = some (Settings.ofEnvironment (e.withDefaults text?)))
    ∧ (∀ content, Settings.ofEnvironmentAndFile e (some content) = none
      ↔ ∃ before a after e', soundAssignments (fileLines content) = before ++ a :: after
        ∧ e.load? before = some e' ∧ e'.text? a.name = none
        ∧ '\x00' ∈ (e'.expand a.value).toList)
    ∧ (∀ content, (∀ a ∈ soundAssignments (fileLines content), a.IsPlain) →
      (Settings.ofEnvironmentAndFile e (some content) = none
        ↔ ∃ name, ∃ value : String, e.text? name = none
          ∧ GivesFirst (fileLines content) name (some value) ∧ '\x00' ∈ value.toList))
    ∧ (∀ content e' before a after, e.withFile? (some content) = some e' →
      soundAssignments (fileLines content) = before ++ a :: after →
      (∀ b ∈ before, b.name ≠ a.name) →
      ∃ e₁, e.load? before = some e₁
        ∧ e'.text? a.name = (e.text? a.name).or (some (e₁.expand a.value)))
    ∧ (∀ content e' name value, e.withFile? (some content) = some e' →
      e.text? name = some value → e'.text? name = some value)
    ∧ (∀ line first rest longer shorter, HasBetween line first rest longer shorter →
      IsIdleLine line →
      Settings.ofEnvironmentAndFile e (some longer)
        = Settings.ofEnvironmentAndFile e (some shorter))
    ∧ (∀ line first rest longer shorter a, HasBetween line first rest longer shorter →
      Whole line → lineContents line = [.assignment a] →
      (e.text? a.name).isSome ∨ (firstAssignment? a.name (lineContents first)).isSome →
      Settings.ofEnvironmentAndFile e (some longer)
        = Settings.ofEnvironmentAndFile e (some shorter))
    ∧ (∀ line first rest longer shorter a (text? : Setting → Option String),
      HasBetween line first rest longer shorter →
      Whole line → lineContents line = [.assignment a] → (∀ s : Setting, a.name ≠ s.key) →
      (∀ s : Setting, e.text? s.key = none → GivesFirst (fileLines shorter) s.key (text? s)) →
      Settings.ofEnvironmentAndFile e (some longer) ≠ none →
      Settings.ofEnvironmentAndFile e (some shorter) ≠ none →
      Settings.ofEnvironmentAndFile e (some longer)
        = Settings.ofEnvironmentAndFile e (some shorter))
    ∧ ∀ tail first longer shorter, HasBetween tail first [] longer shorter →
      (lineContents tail).head? = some .malformed →
      Settings.ofEnvironmentAndFile e (some longer)
        = Settings.ofEnvironmentAndFile e (some shorter) := by
  refine ⟨fun content text? => ofEnvironmentAndFile_of_gives, fun content => ?_,
    fun content hplain => ?_, fun content e' before a after hfile hsplit hbefore => ?_,
    fun content e' name value hfile h => Environment.text?_withFile hfile h,
    fun line first rest longer shorter h hidle => ?_,
    fun line first rest longer shorter a h hwhole hline hset => ?_,
    fun line first rest longer shorter a text? h hwhole hline hother hgives hne hne' => ?_,
    fun tail first longer shorter h hmalformed => ?_⟩
  · rw [ofEnvironmentAndFile_eq_none_iff, Environment.load?_eq_none_iff]
  · exact ofEnvironmentAndFile_eq_none_iff_of_plain hplain
  · rw [Environment.withFile?_some, hsplit] at hfile
    obtain ⟨e₁, hload, -⟩ := Option.bind_eq_some_iff.1 ((e.load?_append _ _).symm.trans hfile)
    refine ⟨e₁, hload, ?_⟩
    rw [Environment.text?_load hfile, Environment.assigned?_append hbefore a rfl, hload,
      Option.map_some]
  · obtain ⟨hlonger, hshorter⟩ := h.fileLines hidle.whole
    refine ofEnvironmentAndFile_of_load ?_
    rw [hlonger, hshorter, soundAssignments_append (lineContents first),
      soundAssignments_append (lineContents first)]
    rcases hidle.lineContents with hline | hline <;> rw [hline] <;> rfl
  · obtain ⟨hlonger, hshorter⟩ := h.fileLines hwhole
    have hcons : soundAssignments ([.assignment a] ++ lineContents rest)
        = a :: soundAssignments (lineContents rest) := rfl
    refine ofEnvironmentAndFile_of_load ?_
    rw [hlonger, hshorter, hline, soundAssignments_append (lineContents first),
      soundAssignments_append (lineContents first), hcons]
    split_ifs
    · refine Environment.load?_of_isSome (hset.imp_right fun hfirst => ?_) _
      simpa [firstAssignment?, List.find?_isSome] using hfirst
    · rfl
  · obtain ⟨hlonger, hshorter⟩ := h.fileLines hwhole
    rw [ofEnvironmentAndFile_of_gives hgives hne']
    refine ofEnvironmentAndFile_of_gives (fun s hunset => ?_) hne
    have hfirst := hgives s hunset
    rw [hshorter] at hfirst
    rwa [hlonger, hline, List.singleton_append, GivesFirst, firstAssignment?_insert (hother s)]
  · have hlonger := fileLines_of_append h.whole _ h.longer
    have hshorter := fileLines_of_append h.whole _ h.shorter
    obtain ⟨lines, hlines⟩ := List.head?_eq_some_iff.1 hmalformed
    refine ofEnvironmentAndFile_of_load ?_
    have hnone : lineContents [] = [] := rfl
    have hmalformed : soundAssignments (.malformed :: lines) = [] := rfl
    rw [hlonger, hshorter, List.append_nil, hlines, hnone, soundAssignments_append,
      soundAssignments_append, hmalformed]
    rfl

/-- An environment whose lookup timeout is no text. -/
def bytesEnvironment : Environment := ⟨[(Setting.lookupTimeout.key, .bytes)]⟩

def sevenLine : List UInt8 :=
  utf8Bytes "export DIALCACHE_REFRESH_INTERVAL_SECS = '7' # seven\n".toList

def eightLine : List UInt8 := utf8Bytes "DIALCACHE_REFRESH_INTERVAL_SECS=8\n".toList

/-- A line that is no text, and one behind it. -/
def malformedTail : List UInt8 :=
  0xff :: 0x0a :: utf8Bytes "DIALCACHE_LOOKUP_TIMEOUT_MS=9\n".toList

/-- The interval is assigned twice and the timeout behind a malformed line. The first of the three
assignments counts, and without the others the file comes to the same. -/
theorem Settings.first_assignment_counts :
    let e := bytesEnvironment
    let longer := sevenLine ++ eightLine ++ malformedTail
    let shorter := sevenLine ++ malformedTail
    let text? : Setting → Option String
      | .refreshInterval => some "7"
      | .lookupTimeout => none
    (∀ s : Setting, GivesFirst (fileLines longer) s.key (text? s))
      ∧ Settings.ofEnvironmentAndFile e (some longer)
        = some (Settings.ofEnvironment (e.withDefaults text?))
      ∧ HasBetween eightLine sevenLine malformedTail longer shorter
      ∧ Settings.ofEnvironmentAndFile e (some longer)
        = Settings.ofEnvironmentAndFile e (some shorter)
      ∧ HasBetween malformedTail sevenLine [] shorter sevenLine
      ∧ (lineContents malformedTail).head? = some .malformed
      ∧ Settings.ofEnvironmentAndFile e (some shorter)
        = Settings.ofEnvironmentAndFile e (some sevenLine)
      ∧ Settings.ofEnvironment (e.withDefaults text?) = .ok ⟨.ofSeconds 7, .ofSeconds 10⟩ := by
  intro e longer shorter text?
  have hseven : Whole sevenLine := ⟨by decide +kernel, by decide +kernel⟩
  have height : Whole eightLine := ⟨by decide +kernel, by decide +kernel⟩
  have hmark : ∀ rest, withoutMark (sevenLine ++ rest) = sevenLine ++ rest := by
    obtain ⟨bytes, hbytes⟩ : ∃ bytes, sevenLine = 0x65 :: bytes :=
      List.head?_eq_some_iff.1 (by decide +kernel)
    rw [hbytes]
    exact fun _ => rfl
  have hbetween : HasBetween eightLine sevenLine malformedTail longer shorter :=
    ⟨hseven, by rw [← hmark, ← List.append_assoc], hmark _⟩
  have hbehind : HasBetween malformedTail sevenLine [] shorter sevenLine :=
    ⟨hseven, by rw [List.append_nil, hmark], by rw [← hmark, List.append_nil]⟩
  have hsevenLine : lineContents sevenLine
      = [.assignment ⟨Setting.refreshInterval.key, [.char '7']⟩] := by decide +kernel
  have heightLine : lineContents eightLine
      = [.assignment ⟨Setting.refreshInterval.key, [.char '8']⟩] := by decide +kernel
  have hmalformed : lineContents malformedTail = [.malformed] := by decide +kernel
  obtain ⟨hlonger, -⟩ := hbetween.fileLines height
  rw [hsevenLine, heightLine, hmalformed] at hlonger
  have hgives : ∀ s : Setting, GivesFirst (fileLines longer) s.key (text? s) := by
    rw [hlonger]
    intro s
    cases s <;> simp [GivesFirst, firstAssignment?, soundAssignments, Setting.key, text?]
  obtain ⟨hfile, -, -, -, -, -, hagain, -, htail⟩ := environment_before_file e
  have hreturns : Settings.ofEnvironmentAndFile e (some longer) ≠ none := by
    rw [Ne, ofEnvironmentAndFile_eq_none_iff, hlonger]
    decide +kernel
  have hhead : (lineContents malformedTail).head? = some .malformed := by
    rw [hmalformed]
    rfl
  refine ⟨hgives, hfile longer text? (fun s _ => hgives s) hreturns, hbetween, ?_, hbehind, hhead,
    htail _ _ _ _ hbehind hhead, by decide +kernel⟩
  refine hagain _ _ _ _ _ _ hbetween height heightLine (.inr ?_)
  rw [hsevenLine]
  rfl

/-- A note with a NUL, of which neither variable has anything, ends the program all the same. -/
theorem Settings.nul_in_a_note_ends :
    let e : Environment := ⟨[(Setting.refreshInterval.key, .text "7")]⟩
    let content := utf8Bytes "NOTE=a\x00b\n".toList
    (∀ s : Setting, GivesFirst (fileLines content) s.key none)
      ∧ Settings.ofEnvironment (e.withDefaults fun _ => none)
        = .ok ⟨.ofSeconds 7, .ofSeconds 10⟩
      ∧ Settings.ofEnvironmentAndFile e (some content) = none := by
  intro e content
  refine ⟨fun s => ?_, by decide +kernel, by decide +kernel⟩
  cases s <;> decide +kernel

end HostDialing

import HostDialing.Cache.State
import HostDialing.Proofs.Network.Families
import HostDialing.Proofs.Settings.Defaults
import HostDialing.Proofs.Text.Quoted
import HostDialing.Proofs.Time.Text

/-!
# What messages show

A message that shows a text from outside is all of characters that print, and the text is read back
from it (`outside_text_reads_back`): the text stands in quotes, and only what is fixed stands before
these. A message that shows a duration shows it exactly (`durations_shown_exactly`); there is no
comma in a duration, so the text of settings falls apart into its two durations in one way only.
-/

namespace HostDialing

/-- The value and the key in the message about a variable that is not valid. -/
def shownVariable? (message : String) : Option (String × String) := do
  let cs ← "invalid value ".toList.isPrefixOf? message.toList
  let (value, behind) ← quotation? cs
  let key ← " for ".toList.isPrefixOf? behind
  return (value, String.ofList key)

/-- The network in the message about one that is not supported. -/
def shownNetwork? (message : String) : Option String := do
  let cs ← "unsupported network ".toList.isPrefixOf? message.toList
  let (network, behind) ← quotation? cs
  if behind = [] then some network else none

theorem isPrefixOf?_append (lead : String) (cs : List Char) :
    lead.toList.isPrefixOf? (lead.toList ++ cs) = some cs :=
  List.isPrefixOf?_eq_some_iff_append_eq.2 rfl

/-- The key is all that is behind the quotation, whatever its text. -/
theorem shownVariable?_eq (value key : String) :
    shownVariable? ("invalid value " ++ quoted value ++ " for " ++ key) = some (value, key) := by
  have hchars : ("invalid value " ++ quoted value ++ " for " ++ key).toList
      = "invalid value ".toList ++ ((quoted value).toList ++ (" for ".toList ++ key.toList)) := by
    simp only [String.toList_append, List.append_assoc]
  rw [shownVariable?, hchars, isPrefixOf?_append, Option.bind_eq_bind, Option.bind_some,
    quotation?_quoted]
  simp only [Option.bind_eq_bind, Option.bind_some, isPrefixOf?_append, String.ofList_toList]
  rfl

theorem shownNetwork?_eq (network : String) :
    shownNetwork? ("unsupported network " ++ quoted network) = some network := by
  have hchars : ("unsupported network " ++ quoted network).toList
      = "unsupported network ".toList ++ ((quoted network).toList ++ []) := by
    rw [String.toList_append, List.append_nil]
  rw [shownNetwork?, hchars, isPrefixOf?_append, Option.bind_eq_bind, Option.bind_some,
    quotation?_quoted]
  rfl

theorem Setting.prints_key (setting : Setting) : Prints setting.key.toList := by
  cases setting <;> exact prints_of_ascii (by decide)

theorem SettingsError.prints_invalidVariable (setting : Setting) (value : String) :
    Prints (invalidVariable setting value).message.toList := by
  have hlead : Prints "invalid value ".toList := prints_of_ascii (by decide)
  have hfor : Prints " for ".toList := prints_of_ascii (by decide)
  unfold message
  rw [String.toList_append, String.toList_append, String.toList_append]
  exact ((hlead.append (prints_quoted value)).append hfor).append setting.prints_key

theorem message_unsupportedNetwork (network : String) :
    (unsupportedNetwork network).message = "unsupported network " ++ quoted network := by
  simp only [unsupportedNetwork, IoError.message]

theorem prints_unsupportedNetwork (network : String) :
    Prints (unsupportedNetwork network).message.toList := by
  have hlead : Prints "unsupported network ".toList := prints_of_ascii (by decide)
  rw [message_unsupportedNetwork, String.toList_append]
  exact hlead.append (prints_quoted network)

/-- A network that is not supported is refused before anything else is looked at. -/
theorem tcpConnect_unsupported {network : String} (h : isTcpNetwork network = false) (link : Link)
    (nodelay : Bool) (addr : String) :
    tcpConnect link nodelay network addr = .error (unsupportedNetwork network) := by
  refine tcpConnect_of_error ?_ link nodelay
  rw [Endpoint.of, h]
  rfl

/-- The message about a variable that is not valid prints, so it has no control character and no
line break, and its value and its key are read back from it; it would be so for any other key. So
two such messages are the same only for the same variable and value. The same holds of the message
about a network, which the connector gives for each network that it does not support. -/
theorem outside_text_reads_back :
    (∀ setting value, let message := (SettingsError.invalidVariable setting value).message
      Prints message.toList ∧ message.toList.any isControl = false
      ∧ shownVariable? message = some (value, setting.key))
    ∧ (∀ value key value' key', "invalid value " ++ quoted value ++ " for " ++ key
        = "invalid value " ++ quoted value' ++ " for " ++ key' ↔ value = value' ∧ key = key')
    ∧ (∀ setting value setting' value', (SettingsError.invalidVariable setting value).message
        = (SettingsError.invalidVariable setting' value').message
      ↔ setting = setting' ∧ value = value')
    ∧ (∀ network, let message := (unsupportedNetwork network).message
      Prints message.toList ∧ message.toList.any isControl = false
      ∧ shownNetwork? message = some network)
    ∧ (∀ network network', (unsupportedNetwork network).message
      = (unsupportedNetwork network').message ↔ network = network')
    ∧ ∀ network, isTcpNetwork network = false → ∀ link nodelay addr,
      tcpConnect link nodelay network addr = .error (unsupportedNetwork network) := by
  have hshown : ∀ value key value' key', "invalid value " ++ quoted value ++ " for " ++ key
      = "invalid value " ++ quoted value' ++ " for " ++ key' ↔ value = value' ∧ key = key' := by
    intro value key value' key'
    refine ⟨fun h => ?_, fun ⟨hvalue, hkey⟩ => by rw [hvalue, hkey]⟩
    have hread := shownVariable?_eq value key
    rw [h, shownVariable?_eq, Option.some_inj, Prod.mk.injEq] at hread
    exact ⟨hread.1.symm, hread.2.symm⟩
  refine ⟨fun setting value => ?_, hshown, fun setting value setting' value' => ?_,
    fun network => ?_, fun network network' => ?_, fun network h link nodelay addr => ?_⟩
  · have hprints := SettingsError.prints_invalidVariable setting value
    exact ⟨hprints, hprints.any_isControl, shownVariable?_eq value setting.key⟩
  · rw [← Setting.key_inj, and_comm]
    exact hshown value setting.key value' setting'.key
  · have hprints := prints_unsupportedNetwork network
    refine ⟨hprints, hprints.any_isControl, ?_⟩
    rw [message_unsupportedNetwork, shownNetwork?_eq]
  · refine ⟨fun h => ?_, fun h => by rw [h]⟩
    have hread := shownNetwork?_eq network
    rw [← message_unsupportedNetwork, h, message_unsupportedNetwork, shownNetwork?_eq,
      Option.some_inj] at hread
    exact hread.symm
  · exact tcpConnect_unsupported h link nodelay addr

/-- A network that ends its line and its quotation, refused in a message that does neither. -/
theorem network_of_two_lines :
    isTcpNetwork "udp\"\n" = false
      ∧ tcpConnect (Link.loopback [80]) true "udp\"\n" "127.0.0.1:80"
        = .error (unsupportedNetwork "udp\"\n")
      ∧ (unsupportedNetwork "udp\"\n").message = "unsupported network \"udp\\\"\\n\""
      ∧ shownNetwork? "unsupported network \"udp\\\"\\n\"" = some "udp\"\n" := by
  have hnetwork : isTcpNetwork "udp\"\n" = false := by decide
  have hmessage : (unsupportedNetwork "udp\"\n").message
      = "unsupported network \"udp\\\"\\n\"" := by
    rw [message_unsupportedNetwork]
    decide +kernel
  obtain ⟨-, -, -, hread, -, hrefused⟩ := outside_text_reads_back
  exact ⟨hnetwork, hrefused _ hnetwork _ _ _, hmessage, hmessage ▸ (hread "udp\"\n").2.2⟩

theorem Duration.comma_notMem_text (d : Duration) : ',' ∉ d.text.toList := by
  intro h
  rw [text, String.toList_ofList, d.chars_eq rfl, inUnits_eq, List.mem_append,
    List.mem_append] at h
  rcases h with h | h | h
  · exact absurd (isDigit_of_mem_decimal h) (by decide)
  · rcases mem_pointed h with h | h
    · cases h
    · exact absurd (isDigit_of_mem_places h) (by decide)
  · revert h
    cases TimeUnit.of d.totalNanos <;> decide

/-- Texts that fixed ones stand around, where the middle one of these begins with a comma. -/
theorem append_comma_inj {lead middle behind a b c d : String}
    (hmiddle : middle.toList.head? = some ',') (ha : ',' ∉ a.toList) (hc : ',' ∉ c.toList) :
    lead ++ a ++ middle ++ b ++ behind = lead ++ c ++ middle ++ d ++ behind ↔ a = c ∧ b = d := by
  refine ⟨fun h => ?_, fun ⟨hac, hbd⟩ => by rw [hac, hbd]⟩
  obtain ⟨rest, hrest⟩ := List.head?_eq_some_iff.1 hmiddle
  have hlist := congrArg String.toList ((String.append_left_inj _).1 h)
  simp only [String.toList_append, List.append_assoc, List.append_right_inj, hrest,
    List.cons_append] at hlist
  have hspan := congrArg (List.span (· ≠ ',')) hlist
  rw [span_ne_append ha, span_ne_append hc, Prod.mk.injEq, List.cons_inj_right,
    List.append_right_inj, String.toList_inj, String.toList_inj] at hspan
  exact hspan

theorem ResolutionError.message_timeout_inj {host : String} {limit limit' : Duration} :
    (timeout host limit).message = (timeout host limit').message ↔ limit = limit' := by
  unfold message
  rw [String.append_right_inj, Duration.text_inj]

theorem Settings.text_inj {s t : Settings} : s.text = t.text ↔ s = t := by
  have hmiddle : ", lookup_timeout: ".toList.head? = some ',' := by decide
  unfold text
  rw [append_comma_inj hmiddle s.refreshInterval.comma_notMem_text
    t.refreshInterval.comma_notMem_text, Duration.text_inj, Duration.text_inj]
  cases s
  cases t
  rw [Settings.mk.injEq]

theorem append_true_ne (a b : String) : a ++ "true" ≠ b ++ "false" := by
  intro h
  have hreverse := congrArg (fun s : String => s.toList.reverse) h
  simp only [String.toList_append, List.reverse_append] at hreverse
  change 'e' :: 'u' :: _ = 'e' :: 's' :: _ at hreverse
  simp at hreverse

theorem CacheState.text_inj {s t : CacheState} :
    s.text = t.text ↔ s.settings = t.settings ∧ s.isStopped = t.isStopped := by
  unfold text
  rw [String.append_left_inj]
  cases s.isStopped <;> cases t.isStopped
  · simp [Settings.text_inj]
  · simpa using (append_true_ne _ _).symm
  · simpa using append_true_ne _ _
  · simp [Settings.text_inj]

/-- A duration is written in the largest unit that does not exceed it, as the number of its whole
units and the decimals of a unit without zeros at the end, and what is written denotes exactly the
duration. This is how it is shown in the error of a lookup that took too long and in the text of
settings. So durations are written alike only if they are equal, two of these errors about one host
say the same only if their limits are equal, settings have one text if and only if they are equal,
and caches if their settings are equal and both or neither of them are stopped. -/
theorem durations_shown_exactly :
    (∀ d : Duration, nanosOf? d.text.toList = some (d.totalNanos : ℚ)
      ∧ ∃ (u : TimeUnit) (places : List Char), u.IsFor d.totalNanos
        ∧ d.text.toList = decimal (d.totalNanos / u.nanos) ++ (pointed places ++ u.symbol)
        ∧ places.all Char.isDigit ∧ places.getLast? ≠ some '0')
    ∧ (∀ d e : Duration, d.text = e.text ↔ d = e)
    ∧ (∀ host limit, (ResolutionError.timeout host limit).message
      = "lookup " ++ host ++ ": timed out after " ++ limit.text)
    ∧ (∀ host limit limit', (ResolutionError.timeout host limit).message
      = (ResolutionError.timeout host limit').message ↔ limit = limit')
    ∧ (∀ s : Settings, s.text = "DnsCacheConfig \x7b refresh_interval: " ++ s.refreshInterval.text
      ++ ", lookup_timeout: " ++ s.lookupTimeout.text ++ " \x7d")
    ∧ (∀ s t : Settings, s.text = t.text ↔ s = t)
    ∧ ∀ s t : CacheState,
      s.text = t.text ↔ s.settings = t.settings ∧ s.isStopped = t.isStopped := by
  refine ⟨fun d => ⟨d.nanosOf?_text, d.exists_text_eq⟩, fun _ _ => Duration.text_inj,
    fun host limit => ?_, fun _ _ _ => ResolutionError.message_timeout_inj, fun _ => rfl,
    fun _ _ => Settings.text_inj, fun _ _ => CacheState.text_inj⟩
  unfold ResolutionError.message
  rfl

/-- The zero in front counts, those at the end are not written. -/
example : Duration.text ⟨1, 50000000, by decide⟩ = "1.05s" := by decide +kernel

end HostDialing

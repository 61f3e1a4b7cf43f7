import HostDialing.Environment.File
import HostDialing.Settings.Basic

/-!
# Settings from the environment

Each setting may be given by a variable; an unset one leaves the default. A file next to the
program gives defaults to the environment first.
-/

namespace HostDialing

/-- The number in a variable's text, between white space. -/
def settingNumber? (value : String) : Option UInt64 := word? (trim value.toList)

/-- Takes a setting from its variable. The error shows the whole text of the variable. -/
def Settings.override (s : Settings) (setting : Setting) (e : Environment) :
    Except SettingsError Settings :=
  match e.text? setting.key with
  | none => .ok s
  | some value =>
    match settingNumber? value with
    | some n => .ok (s.set setting (setting.duration n))
    | none => .error (.invalidVariable setting value)

/-- The settings that an environment gives: the refresh interval is read first, and zeros are
refused last. -/
def Settings.ofEnvironment (e : Environment) : Except SettingsError Settings := do
  let s ← Settings.default.override .refreshInterval e
  let s ← s.override .lookupTimeout e
  s.validate
  return s

/-- The settings that an environment and a file of defaults for it give; `none` where the program
ends because the file gives a variable a text that it cannot hold. -/
def Settings.ofEnvironmentAndFile (e : Environment) (file : Option (List UInt8)) :
    Option (Except SettingsError Settings) :=
  (e.withFile? file).map ofEnvironment

end HostDialing

import HostDialing.Json.Value
import HostDialing.Settings.Basic

/-!
# Settings as JSON

Settings are written as an object with the refresh interval in seconds and the lookup timeout in
milliseconds, and read from such an object or from an array of the two numbers. What is missing
takes its default; members with other names are skipped; a setting given twice is refused.
-/

namespace HostDialing

def Settings.json (s : Settings) : String :=
  "\x7b\"" ++ Setting.refreshInterval.member ++ "\":"
    ++ String.ofList (decimal s.refreshInterval.secs.toNat)
    ++ ",\"" ++ Setting.lookupTimeout.member ++ "\":"
    ++ String.ofList (decimal s.lookupTimeout.wholeMillis.toNat) ++ "\x7d"

/-- What a reader of settings wants. -/
inductive SettingsWanted where
  | number
  | settings
deriving DecidableEq

/-- Why a text gives no settings: it is no JSON, or JSON of another form. -/
inductive SettingsTextError where
  | fault (fault : JsonFault)
  | unsuited (found : JsonFound) (wanted : SettingsWanted)
  | repeated (setting : Setting)
deriving DecidableEq

/-- What is said about JSON of another form. A whole number below zero has the right type but a
wrong value, all else a wrong type. -/
def SettingsTextError.message? : SettingsTextError → Option String
  | fault _ => none
  | unsuited found .number =>
    let wrong := match found with
      | .negative _ => "invalid value: "
      | _ => "invalid type: "
    some (wrong ++ found.description ++ ", expected u64")
  | unsuited found .settings =>
    some ("invalid type: " ++ found.description ++ ", expected struct DnsCacheConfig")
  | repeated setting => some ("duplicate field `" ++ setting.member ++ "`")

/-- A reading in which nothing but the form of JSON can be wrong. -/
def ofJsonReading {α : Type} : Except JsonFault α → Except SettingsTextError α
  | .ok a => .ok a
  | .error f => .error (.fault f)

/-- The numbers read so far. -/
structure GivenSettings where
  refreshInterval : Option UInt64
  lookupTimeout : Option UInt64
deriving DecidableEq

def GivenSettings.none : GivenSettings := ⟨.none, .none⟩

def GivenSettings.get? (g : GivenSettings) : Setting → Option UInt64
  | .refreshInterval => g.refreshInterval
  | .lookupTimeout => g.lookupTimeout

def GivenSettings.set (g : GivenSettings) : Setting → UInt64 → GivenSettings
  | .refreshInterval, n => { g with refreshInterval := some n }
  | .lookupTimeout, n => { g with lookupTimeout := some n }

/-- A given number replaces the default. -/
def GivenSettings.settings (g : GivenSettings) : Settings where
  refreshInterval := (g.refreshInterval.map Setting.refreshInterval.duration).getD
    Settings.default.refreshInterval
  lookupTimeout := (g.lookupTimeout.map Setting.lookupTimeout.duration).getD
    Settings.default.lookupTimeout

/-- The setting of a member's name. -/
def Setting.ofMember? (name : List Char) : Option Setting :=
  if name = Setting.refreshInterval.member.toList then some .refreshInterval
  else if name = Setting.lookupTimeout.member.toList then some .lookupTimeout
  else none

/-- Reads a number in sixty-four bits. -/
def readWord (cs : List Char) : Except SettingsTextError (UInt64 × List Char) := do
  match ← ofJsonReading (readFound cs) with
  | (.word n, rest) => return (n, rest)
  | (found, _) => throw (.unsuited found .number)

/-- Reads a member from behind the quote that opens its name. -/
def readMember (g : GivenSettings) (cs : List Char) :
    Except SettingsTextError (GivenSettings × List Char) := do
  let (name, rest) ← ofJsonReading (readText [] cs)
  match Setting.ofMember? name with
  | some s =>
    if (g.get? s).isSome then throw (.repeated s)
    else
      let (n, rest) ← readWord (← ofJsonReading (readColon rest))
      return (g.set s n, rest)
  | none => return (g, ← ofJsonReading (readColon rest >>= skipValue))

/-- Reads members from behind the quote that opens a name to the end of their object. There are
no more of them than characters. -/
def readMembers (g : GivenSettings) : (room : Nat) → List Char →
    Except SettingsTextError (GivenSettings × List Char)
  | 0, _ => throw (.fault .ended)
  | room + 1, cs => do
    let (g, rest) ← readMember g cs
    let (c, rest) ← ofJsonReading (firstChar rest)
    if c = '\x7d' then return (g, rest)
    else if c = ',' then
      let (c, rest) ← ofJsonReading (firstChar rest)
      if c = '"' then readMembers g room rest else throw (.fault .malformed)
    else throw (.fault .malformed)

/-- Reads an object from behind its brace. -/
def readObject (cs : List Char) : Except SettingsTextError (GivenSettings × List Char) := do
  let (c, rest) ← ofJsonReading (firstChar cs)
  if c = '\x7d' then return (.none, rest)
  else if c = '"' then readMembers .none (rest.length + 1) rest
  else throw (.fault .malformed)

/-- Reads the end of an array of two numbers. -/
def readArrayEnd (g : GivenSettings) (cs : List Char) :
    Except SettingsTextError (GivenSettings × List Char) := do
  let (c, rest) ← ofJsonReading (firstChar cs)
  if c = ']' then return (g, rest) else throw (.fault .malformed)

/-- Reads what follows the first number of an array. -/
def readSecond (g : GivenSettings) (cs : List Char) :
    Except SettingsTextError (GivenSettings × List Char) := do
  let (c, rest) ← ofJsonReading (firstChar cs)
  if c = ']' then return (g, rest)
  else if c = ',' then
    let (d, _) ← ofJsonReading (firstChar rest)
    if d = ']' then throw (.fault .malformed)
    else
      let (n, rest) ← readWord rest
      readArrayEnd (g.set .lookupTimeout n) rest
  else throw (.fault .malformed)

/-- Reads an array from behind its bracket: the refresh interval, then the lookup timeout. -/
def readArray (cs : List Char) : Except SettingsTextError (GivenSettings × List Char) := do
  let (c, rest) ← ofJsonReading (firstChar cs)
  if c = ']' then return (.none, rest)
  else
    let (n, rest) ← readWord cs
    readSecond (GivenSettings.none.set .refreshInterval n) rest

/-- Reads an object or an array. -/
def readGiven (cs : List Char) : Except SettingsTextError (GivenSettings × List Char) := do
  let (c, rest) ← ofJsonReading (firstChar cs)
  if c = '\x7b' then readObject rest
  else if c = '[' then readArray rest
  else
    let (found, _) ← ofJsonReading (readFound cs)
    throw (.unsuited found .settings)

/-- Reads settings; only blanks may stand around them. -/
def Settings.ofJson (text : String) : Except SettingsTextError Settings := do
  let (g, rest) ← readGiven text.toList
  if skipBlank rest = [] then return g.settings else throw (.fault .malformed)

end HostDialing

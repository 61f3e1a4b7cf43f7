import HostDialing.Text.Quoted
import HostDialing.Time.Duration

/-!
# Settings of a cache

How often the known hosts are resolved again, and how long one resolution may take. Both have
defaults, and a cache accepts neither of them as zero.
-/

namespace HostDialing

/-- The two settings. -/
inductive Setting where
  | refreshInterval
  | lookupTimeout
deriving DecidableEq

/-- The environment variable of a setting, in seconds and in milliseconds. -/
def Setting.key : Setting → String
  | refreshInterval => "DIALCACHE_REFRESH_INTERVAL_SECS"
  | lookupTimeout => "DIALCACHE_LOOKUP_TIMEOUT_MS"

/-- The member of a setting in a settings object, in the unit of its variable. -/
def Setting.member : Setting → String
  | refreshInterval => "refresh_interval_secs"
  | lookupTimeout => "lookup_timeout_ms"

/-- Why a cache cannot be made, or its settings not be read. -/
inductive SettingsError where
  | zeroRefreshInterval
  | zeroLookupTimeout
  | noRuntime
  | invalidVariable (setting : Setting) (value : String)
deriving DecidableEq

def SettingsError.message : SettingsError → String
  | zeroRefreshInterval => "refresh interval must be greater than zero"
  | zeroLookupTimeout => "lookup timeout must be greater than zero"
  | noRuntime => "dns cache must be created inside a tokio runtime"
  | invalidVariable setting value =>
    "invalid value " ++ quoted value ++ " for " ++ setting.key

structure Settings where
  refreshInterval : Duration
  lookupTimeout : Duration
deriving DecidableEq

def Settings.default : Settings := ⟨.ofSeconds 30, .ofSeconds 10⟩

instance : Inhabited Settings := ⟨.default⟩

def Settings.set (s : Settings) : Setting → Duration → Settings
  | .refreshInterval, d => { s with refreshInterval := d }
  | .lookupTimeout, d => { s with lookupTimeout := d }

/-- A number in the unit in which a setting is written. -/
def Setting.duration : Setting → UInt64 → Duration
  | refreshInterval, n => .ofSeconds n
  | lookupTimeout, n => .ofMillis n

/-- Zero settings are refused, the refresh interval first. -/
def Settings.validate (s : Settings) : Except SettingsError Unit :=
  if s.refreshInterval.isZero then .error .zeroRefreshInterval
  else if s.lookupTimeout.isZero then .error .zeroLookupTimeout
  else .ok ()

/-- The settings with both durations in full. -/
def Settings.text (s : Settings) : String :=
  "DnsCacheConfig \x7b refresh_interval: " ++ s.refreshInterval.text ++ ", lookup_timeout: "
    ++ s.lookupTimeout.text ++ " \x7d"

end HostDialing

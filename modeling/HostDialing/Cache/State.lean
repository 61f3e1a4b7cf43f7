import HostDialing.Cache.Task
import HostDialing.Settings.Basic

/-!
# The state of a cache

A cache with the tasks under way on it, at an instant. It lives as long as its owner keeps it or a
task uses it; only a living cache begins a background pass.
-/

namespace HostDialing

structure CacheState where
  settings : Settings
  now : Instant
  entries : Entries
  isStopped : Bool
  isReleased : Bool
  background : Background
  tasks : List (Nat × Task)
  cancelled : List Token
  nextCall : Nat
  nextTask : Nat

/-- A cache without entries. Where the clock does not reach the first tick there is no background
task. -/
def CacheState.fresh (settings : Settings) (now : Instant) : CacheState where
  settings := settings
  now := now
  entries := .empty
  isStopped := false
  isReleased := false
  background := match Ticker.start? now settings.refreshInterval with
    | some ticker => .waiting ticker
    | none => .ended
  tasks := []
  cancelled := []
  nextCall := 0
  nextTask := 0

/-- Makes a cache, which needs valid settings and then a runtime for its background task. -/
def CacheState.open? (settings : Settings) (hasRuntime : Bool) (now : Instant) :
    Except SettingsError CacheState := do
  settings.validate
  if hasRuntime then return fresh settings now else .error .noRuntime

def CacheState.isAlive (s : CacheState) : Bool := !s.isReleased || !s.tasks.isEmpty

def CacheState.isCancelled (s : CacheState) (t : Token) : Bool := s.cancelled.contains t

def CacheState.cancel (s : CacheState) (t : Token) : CacheState :=
  { s with cancelled := t :: s.cancelled }

def CacheState.task? (s : CacheState) (id : Nat) : Option Task := s.tasks.lookup id

def CacheState.removeTask (s : CacheState) (id : Nat) : CacheState :=
  { s with tasks := s.tasks.filter (·.1 != id) }

def CacheState.addTask (s : CacheState) (id : Nat) (t : Task) : CacheState :=
  { s with tasks := s.tasks ++ [(id, t)] }

/-- Puts a task in place of the one of the same number. -/
def CacheState.setTask (s : CacheState) (id : Nat) (t : Task) : CacheState :=
  { s with tasks := s.tasks.map fun entry => if entry.1 = id then (id, t) else entry }

/-- The cache with its settings in full and whether its background task is stopped. -/
def CacheState.text (s : CacheState) : String :=
  "DnsCache \x7b config: " ++ s.settings.text ++ ", stopped: "
    ++ (if s.isStopped then "true" else "false") ++ ", .. \x7d"

/-- Who waits for the answer to a question. -/
inductive Owner where
  | lookup (task : Nat) (goal : Goal) (flight : Flight)
  | refresh (task : Nat) (pass : Pass) (flight : Flight)
  | background (ticker : Ticker) (pass : Pass) (flight : Flight)

/-- The question with a number, if a task waits for it. -/
def Task.owner? (id call : Nat) : Task → Option Owner
  | resolving goal flight => if flight.call = call then some (.lookup id goal flight) else none
  | attempting _ _ => none
  | refreshing pass => (pass.find? call).map (.refresh id pass)

def Background.owner? (call : Nat) : Background → Option Owner
  | passing ticker pass => (pass.find? call).map (.background ticker pass)
  | _ => none

def CacheState.owner? (s : CacheState) (call : Nat) : Option Owner :=
  match s.tasks.findSome? fun entry => entry.2.owner? entry.1 call with
  | some owner => some owner
  | none => s.background.owner? call

end HostDialing

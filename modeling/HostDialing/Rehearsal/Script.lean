import HostDialing.Cache.Task
import HostDialing.Dial.Shuffle

/-!
# Scripts of a rehearsal

A rehearsal runs a cache against a resolver and a connector that say what a script tells them: a
list of responses for each key, taken one by one, of which the last stays for ever.
-/

namespace HostDialing

/-- What a resolver does when it is asked; times are in milliseconds. -/
structure ResolverResponse where
  answer : Answer
  delay : Nat
  hangs : Bool
  cancels : Option Token

/-- When a connector cancels a token: while it is called, or as its outcome comes. -/
inductive CancelMoment where
  | call
  | coming
deriving DecidableEq

/-- What a connector does when it is called; without an outcome it connects to the candidate. -/
structure ConnectorResponse where
  outcome : Option (Except IoError String)
  delay : Nat
  hangs : Bool
  cancels : Option (Token × CancelMoment)

/-- The response of a connector that has none in its script. -/
def ConnectorResponse.plain : ConnectorResponse := ⟨none, 0, false, none⟩

/-- The response of a resolver that has none in its script. -/
def ResolverResponse.unknown (host : String) : ResolverResponse :=
  ⟨.error (noSuchHost host), 0, false, none⟩

/-- Responses by key. -/
structure Script (α : Type) where
  responses : List (String × List α)

/-- Replaces the responses of a key. -/
def Script.set {α : Type} (s : Script α) (key : String) (responses : List α) : Script α :=
  ⟨(key, responses) :: s.responses.filter (·.1 != key)⟩

/-- The next response of a key, and the script behind it. -/
def Script.take {α : Type} (s : Script α) (key : String) : Option α × Script α :=
  match s.responses.lookup key with
  | none => (none, s)
  | some [] => (none, s)
  | some [r] => (some r, s)
  | some (r :: rest) => (some r, s.set key rest)

/-- An order of candidates: injected into the dial, or drawn at random by it. -/
inductive OrderScript where
  | listed (positions : List Nat)
  | identity
  | reverse
  | rotated (k : Nat)
  | random

def OrderScript.isInjected : OrderScript → Bool
  | random => false
  | _ => true

/-- The order; a random one is drawn from a source. -/
def OrderScript.order (source : RandomSource) : OrderScript → CandidateOrder
  | listed positions => fun _ => positions
  | identity => listedOrder
  | reverse => reverseOrder
  | rotated k => rotatedOrder k
  | random => fun n => (source.permutation n).1

/-- A request of a rehearsal. A dial without a token has one of its own, and may be cancelled some
milliseconds after it started. -/
inductive ScriptedRequest where
  | lookup (host : String)
  | prewarm (host : String)
  | refresh
  | sockets (host : String) (order : OrderScript)
  | dial (network addr : String) (order : OrderScript) (token : Option String)
      (cancelAfter : Option Nat)

/-- The order that a request brings with it. -/
def ScriptedRequest.order? : ScriptedRequest → Option OrderScript
  | sockets _ order => some order
  | dial _ _ order _ _ => some order
  | _ => none

/-- A step of a rehearsal. -/
inductive ScriptStep where
  | request (request : ScriptedRequest)
  | cancel (token : String)
  | clear
  | stop
  | sleep (millis : Nat)
  | size
  | isEmpty
  | isStopped
  | text
  | settings
  | setHost (host : String) (responses : List ResolverResponse)
  | setConnector (addr : String) (responses : List ConnectorResponse)
  | failAll (error : Option IoError)
  | spawn (id : String) (request : ScriptedRequest)
  | join (id : String)
  | isFinished (id : String)
  | abort (id : String)
  | drop
  | unknown

/-- The step needs the cache. -/
def ScriptStep.needsCache : ScriptStep → Bool
  | request _ | clear | stop | size | isEmpty | isStopped | text | settings | spawn _ _ => true
  | _ => false

end HostDialing

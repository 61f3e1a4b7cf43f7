import HostDialing.Cache.Pass
import HostDialing.Cache.Ticker
import HostDialing.Dial.Attempts
import HostDialing.Dial.Sockets

/-!
# Tasks on a cache

What can be asked of a cache, what a task under way is waiting for, and what it ends with.
-/

namespace HostDialing

/-- A token by which dials are cancelled: shared under a name, or made for one dial. -/
inductive Token where
  | named (name : String)
  | single (serial : Nat)
deriving DecidableEq

structure DialRequest where
  network : String
  addr : String
  order : CandidateOrder
  token : Token

/-- What is asked of a cache. A refresh names the order in which it takes the known hosts. -/
inductive Request where
  | lookup (host : String)
  | prewarm (host : String)
  | sockets (host : String) (order : CandidateOrder)
  | dial (request : DialRequest)
  | refresh (hosts : List String)

/-- What the addresses of a host are wanted for. -/
inductive Goal where
  | addresses
  | warmth
  | sockets (order : CandidateOrder)
  | dial (request : DialRequest) (port : UInt16)

/-- A task that waits: for a resolver, for a connector, or for the questions of a pass. -/
inductive Task where
  | resolving (goal : Goal) (flight : Flight)
  | attempting (request : DialRequest) (attempts : Attempts)
  | refreshing (pass : Pass)

inductive TaskResult (γ : Type) where
  | addresses (result : Except ResolutionError (List String))
  | warmed (result : Except ResolutionError Unit)
  | sockets (result : Except ResolutionError (List SocketAddress))
  | dialed (result : Except DialError γ)
  | refreshed (replaced : Nat)

/-- The background task of a cache: it waits for its next tick, or makes a pass, or is no more. -/
inductive Background where
  | waiting (ticker : Ticker)
  | passing (ticker : Ticker) (pass : Pass)
  | ended

end HostDialing

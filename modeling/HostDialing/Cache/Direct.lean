import HostDialing.Cache.Pass
import HostDialing.Dial.Attempts
import HostDialing.Dial.Sockets

/-!
# One operation after another

What operations on a cache come to when each ends before the next begins and no token is cancelled:
functions of the entries and of a state of the world that resolver and connector share.
-/

namespace HostDialing

/-- What is asked for addresses: the host, and a state of its own. No answer is one that does not
come in time. -/
abbrev Resolver (σ : Type) := String → σ → Option Answer × σ

/-- A resolver that knows some hosts and counts how often it is asked. -/
def tableResolver (hosts : List (String × List String)) : Resolver Nat := fun host calls =>
  match hosts.lookup host with
  | some addresses => (some (.ok addresses), calls + 1)
  | none => (some (.error (noSuchHost host)), calls + 1)

/-- The entries of a cache and the world around it. -/
structure Surroundings (σ : Type) where
  entries : Entries
  world : σ

variable {σ γ : Type}

def lookupNow (resolve : Resolver σ) (limit : Duration) (host : String) (s : Surroundings σ) :
    Except ResolutionError (List String) × Surroundings σ :=
  match s.entries.known? host with
  | some addresses => (.ok addresses, s)
  | none =>
    let (answer, world) := resolve host s.world
    match resolved host limit answer with
    | .ok addresses => (.ok addresses, ⟨s.entries.insert host addresses, world⟩)
    | .error e => (.error e, ⟨s.entries, world⟩)

def prewarmNow (resolve : Resolver σ) (limit : Duration) (host : String) (s : Surroundings σ) :
    Except ResolutionError Unit × Surroundings σ :=
  let (result, s) := lookupNow resolve limit host s
  (result.map fun _ => (), s)

def socketsNow (resolve : Resolver σ) (limit : Duration) (order : CandidateOrder) (host : String)
    (s : Surroundings σ) : Except ResolutionError (List SocketAddress) × Surroundings σ :=
  match lookupNow resolve limit host s with
  | (.ok addresses, s) => (usableSockets host addresses (order addresses.length), s)
  | (.error e, s) => (.error e, s)

def dialNow (resolve : Resolver σ) (connect : Connector σ γ) (limit : Duration)
    (order : CandidateOrder) (network addr : String) (s : Surroundings σ) :
    Except DialError γ × Surroundings σ :=
  match Target.parse addr with
  | .error e => (.error e, s)
  | .ok target =>
    match lookupNow resolve limit target.host s with
    | (.error e, s) => (.error (.resolution e), s)
    | (.ok addresses, s) =>
      let left := candidates addresses (order addresses.length) target.port
      let (result, world) := failover connect network addr left none s.world
      (result, ⟨s.entries, world⟩)

/-- Asks for the given hosts again and says how many of them have new addresses. -/
def refreshHosts (resolve : Resolver σ) (limit : Duration) :
    (hosts : List String) → Surroundings σ → Nat × Surroundings σ
  | [], s => (0, s)
  | host :: hosts, s =>
    let (answer, world) := resolve host s.world
    let (entries, isReplaced) := s.entries.refreshed host (resolved host limit answer)
    let (n, s) := refreshHosts resolve limit hosts ⟨entries, world⟩
    (n + isReplaced.toNat, s)

def refreshNow (resolve : Resolver σ) (limit : Duration) (s : Surroundings σ) :
    Nat × Surroundings σ :=
  refreshHosts resolve limit s.entries.hosts s

end HostDialing

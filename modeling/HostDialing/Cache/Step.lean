import HostDialing.Cache.State

/-!
# Steps of a cache

A cache moves in steps, each of which an event sets off and which have effects on the world: a
request is started, a task looks whether what it waits for is there, a token is cancelled, the
background task takes its tick, time passes. Between two steps every task waits. A dial looks at
its token when it starts, whenever it looks for an answer or a connection, and before each attempt;
what has come by the time it finds the token cancelled is thrown away. A stop stands where the
background task sees it: what that task takes up first, as it may if both are there when it looks,
comes before the stop.
-/

namespace HostDialing

/-- What happens to a cache. An answer or an outcome is what has come when a task looks for it, as
it does at the instant when it comes and at the deadline; it may cancel a token in the act of
coming. -/
inductive CacheEvent (γ : Type) where
  | start (request : Request)
  | answer (call : Nat) (answer : Option Answer) (cancels : Option Token)
  | outcome (task : Nat) (outcome : Option (Except IoError γ)) (cancels : Option Token)
  | cancel (token : Token)
  | abort (task : Nat)
  | clear
  | stop
  | release
  | tick (hosts : List String)
  | elapse (nanos : Nat)

/-- What a cache does to the world. -/
inductive CacheEffect (γ : Type) where
  | resolve (flight : Flight)
  | order (task count : Nat)
  | connect (task : Nat) (network candidate : String)
  | learned (host : String) (addresses : List String)
  | renewed (host : String) (addresses : List String)
  | warned (error : ResolutionError)
  | finished (task : Nat) (result : TaskResult γ)

variable {γ : Type}

/-- A state with the effects on the way to it. -/
abbrev Stepped (γ : Type) := CacheState × List (CacheEffect γ)

/-- The line that is logged where a refresh keeps the old addresses. -/
def refreshWarning (e : ResolutionError) : String :=
  "DNS refresh failed, keeping previous addresses: " ++ e.message

/-- Goes on with a dial that waits for nothing. -/
def CacheState.attemptNext (s : CacheState) (id : Nat) (request : DialRequest)
    (attempts : Attempts) : Stepped γ :=
  match attempts.next request.addr (s.isCancelled request.token) with
  | .fail e => (s.removeTask id, [.finished id (.dialed (.error e))])
  | .connect candidate attempts =>
    (s.setTask id (.attempting request attempts), [.connect id request.network candidate])

/-- Does with the addresses of a host what they are wanted for. -/
def CacheState.reach (s : CacheState) (id : Nat) (host : String) (goal : Goal)
    (result : Except ResolutionError (List String)) : Stepped γ :=
  match goal, result with
  | .addresses, result => (s.removeTask id, [.finished id (.addresses result)])
  | .warmth, result => (s.removeTask id, [.finished id (.warmed (result.map fun _ => ()))])
  | .sockets _, .error e => (s.removeTask id, [.finished id (.sockets (.error e))])
  | .sockets order, .ok addresses =>
    (s.removeTask id, [.order id addresses.length,
      .finished id (.sockets (usableSockets host addresses (order addresses.length)))])
  | .dial _ _, .error e => (s.removeTask id, [.finished id (.dialed (.error (.resolution e)))])
  | .dial request port, .ok addresses =>
    let left := candidates addresses (request.order addresses.length) port
    let (s, effects) := s.attemptNext id request (.begin left)
    (s, .order id addresses.length :: effects)

/-- Starts a lookup. A known host is answered at once, for another the resolver is asked. -/
def CacheState.lookUp (s : CacheState) (id : Nat) (host : String) (goal : Goal) : Stepped γ :=
  let flight := Flight.start s.nextCall host s.now s.settings.lookupTimeout
  let waiting := s.addTask id (.resolving goal flight)
  match s.entries.known? host with
  | some addresses => waiting.reach id host goal (.ok addresses)
  | none => ({ waiting with nextCall := s.nextCall + 1 }, [.resolve flight])

/-- Fills the window of a pass. -/
def CacheState.fillPass (s : CacheState) (p : Pass) : Pass × CacheState × List (CacheEffect γ) :=
  let flights := p.starting s.now s.settings.lookupTimeout s.nextCall
  (p.fill s.now s.settings.lookupTimeout s.nextCall,
    { s with nextCall := s.nextCall + flights.length }, flights.map .resolve)

/-- The known hosts in the order asked for, if that is an order of them. -/
def CacheState.passHosts (s : CacheState) (hosts : List String) : List String :=
  if hosts.isPerm s.entries.hosts then hosts else s.entries.hosts

/-- Lets an explicit refresh wait, or ends it. -/
def CacheState.keepRefresh (s : CacheState) (id : Nat) (p : Pass) : Stepped γ :=
  if p.isDone then (s.removeTask id, [.finished id (.refreshed p.replaced)])
  else (s.setTask id (.refreshing p), [])

/-- Lets a background pass wait, or ends it. -/
def CacheState.keepBackground (s : CacheState) (ticker : Ticker) (p : Pass) : CacheState :=
  { s with background := if p.isDone then .waiting ticker else .passing ticker p }

def CacheState.start (s : CacheState) (request : Request) : Stepped γ :=
  let id := s.nextTask
  let s := { s with nextTask := s.nextTask + 1 }
  match request with
  | .lookup host => s.lookUp id host .addresses
  | .prewarm host => s.lookUp id host .warmth
  | .sockets host order => s.lookUp id host (.sockets order)
  | .dial request =>
    match Target.parse request.addr with
    | .error e => (s, [.finished id (.dialed (.error e))])
    | .ok target =>
      if s.isCancelled request.token then
        (s, [.finished id (.dialed (.error (.cancelled request.addr)))])
      else s.lookUp id target.host (.dial request target.port)
  | .refresh hosts =>
    let pass := Pass.over (s.passHosts hosts)
    let (pass, s, started) := (s.addTask id (.refreshing pass)).fillPass pass
    let (s, effects) := s.keepRefresh id pass
    (s, started ++ effects)

/-- A goal whose token is cancelled, with the error for it. -/
def Goal.cancelled? (s : CacheState) : Goal → Option DialError
  | .dial request _ =>
    if s.isCancelled request.token then some (.cancelled request.addr) else none
  | _ => none

/-- Cancels the token that what has come cancels. -/
def CacheState.cancelBy (s : CacheState) (hasCome : Bool) (cancels : Option Token) : CacheState :=
  match hasCome, cancels with
  | true, some t => s.cancel t
  | _, _ => s

/-- Ends the question of a lookup. -/
def CacheState.endLookup (s : CacheState) (id : Nat) (goal : Goal) (flight : Flight)
    (answer : Option Answer) : Stepped γ :=
  match resolved flight.host s.settings.lookupTimeout answer with
  | .ok addresses =>
    let s := { s with entries := s.entries.insert flight.host addresses }
    let (s, effects) := s.reach id flight.host goal (.ok addresses)
    (s, .learned flight.host addresses :: effects)
  | .error e => s.reach id flight.host goal (.error e)

/-- Ends a question of a pass, and fills its window again. -/
def CacheState.endQuestion (s : CacheState) (p : Pass) (flight : Flight)
    (answer : Option Answer) : Pass × CacheState × List (CacheEffect γ) :=
  let result := resolved flight.host s.settings.lookupTimeout answer
  let (entries, isReplaced) := s.entries.refreshed flight.host result
  let said := match result with
    | .ok addresses => if isReplaced then [.renewed flight.host addresses] else []
    | .error e => [.warned e]
  let (p, s, started) := { s with entries := entries }.fillPass (p.finish flight isReplaced)
  (p, s, said ++ started)

/-- A task looks for the answer to a question. -/
def CacheState.takeAnswer (s : CacheState) (call : Nat) (answer : Option Answer)
    (cancels : Option Token) : Stepped γ :=
  match s.owner? call with
  | none => (s, [])
  | some (.lookup id goal flight) =>
    match goal.cancelled? s with
    | some e => (s.removeTask id, [.finished id (.dialed (.error e))])
    | none =>
      let s := s.cancelBy answer.isSome cancels
      match flight.outcome? s.now answer with
      | none => (s, [])
      | some answer => s.endLookup id goal flight answer
  | some (.refresh id pass flight) =>
    let s := s.cancelBy answer.isSome cancels
    match flight.outcome? s.now answer with
    | none => (s, [])
    | some answer =>
      let (pass, s, effects) := s.endQuestion pass flight answer
      let (s, ended) := s.keepRefresh id pass
      (s, effects ++ ended)
  | some (.background ticker pass flight) =>
    let s := s.cancelBy answer.isSome cancels
    match flight.outcome? s.now answer with
    | none => (s, [])
    | some answer =>
      let (pass, s, effects) := s.endQuestion pass flight answer
      (s.keepBackground ticker pass, effects)

/-- A dial looks for the outcome of its attempt. -/
def CacheState.takeOutcome (s : CacheState) (id : Nat) (outcome : Option (Except IoError γ))
    (cancels : Option Token) : Stepped γ :=
  match s.task? id with
  | some (.attempting request attempts) =>
    if s.isCancelled request.token then
      (s.removeTask id, [.finished id (.dialed (.error (.cancelled request.addr)))])
    else
      let s := s.cancelBy outcome.isSome cancels
      match outcome with
      | none => (s, [])
      | some (.ok connection) => (s.removeTask id, [.finished id (.dialed (.ok connection))])
      | some (.error e) => s.attemptNext id request (attempts.failed e)
  | _ => (s, [])

/-- The background task takes a tick that is due: it begins a pass, or ends with its cache. -/
def CacheState.takeTick (s : CacheState) (hosts : List String) : Stepped γ :=
  match s.background with
  | .waiting ticker =>
    if !ticker.isDue s.now then (s, [])
    else if !s.isAlive then ({ s with background := .ended }, [])
    else
      let (pass, s, effects) := s.fillPass (Pass.over (s.passHosts hosts))
      (s.keepBackground (ticker.fire s.now) pass, effects)
  | _ => (s, [])

def CacheState.step (s : CacheState) : CacheEvent γ → Stepped γ
  | .start request => s.start request
  | .answer call answer cancels => s.takeAnswer call answer cancels
  | .outcome task outcome cancels => s.takeOutcome task outcome cancels
  | .cancel token => (s.cancel token, [])
  | .abort task => (s.removeTask task, [])
  | .clear => ({ s with entries := .empty }, [])
  | .stop => ({ s with isStopped := true, background := .ended }, [])
  | .release => ({ s with isReleased := true }, [])
  | .tick hosts => s.takeTick hosts
  | .elapse nanos => ({ s with now := ⟨s.now.nanos + nanos⟩ }, [])

end HostDialing

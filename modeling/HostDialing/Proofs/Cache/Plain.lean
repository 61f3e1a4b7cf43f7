import HostDialing.Proofs.Cache.Questions

/-!
# Plain lookups

But for a dial it makes no difference to a cache what a lookup is for. A run in which each of these
lookups is a plain one (`CacheEvent.plain`) goes through the same states, but for what the tasks
want with their answers, and asks the same questions (`CacheState.step_plain`).
-/

namespace HostDialing

variable {γ : Type}

def Goal.plain : Goal → Goal
  | .dial request port => .dial request port
  | _ => .addresses

def Task.plain : Task → Task
  | resolving goal flight => .resolving goal.plain flight
  | t => t

def Owner.plain : Owner → Owner
  | lookup id goal flight => .lookup id goal.plain flight
  | owner => owner

def Request.plain : Request → Request
  | .prewarm host => .lookup host
  | .sockets host _ => .lookup host
  | request => request

def CacheEvent.plain : CacheEvent γ → CacheEvent γ
  | start request => .start request.plain
  | e => e

def CacheState.plain (s : CacheState) : CacheState :=
  { s with tasks := s.tasks.map fun entry => (entry.1, entry.2.plain) }

/-- The same step of the cache with plain lookups: it asks the same questions. -/
structure Stepped.Plain (r r' : Stepped γ) : Prop where
  state : r'.1 = r.1.plain
  asked : asked r'.2 = asked r.2

section frame

variable (s : CacheState) (id : Nat)

theorem CacheState.removeTask_plain : s.plain.removeTask id = (s.removeTask id).plain := by
  simp only [removeTask, plain, List.filter_map]
  rfl

theorem CacheState.addTask_plain (t : Task) :
    s.plain.addTask id t.plain = (s.addTask id t).plain := by
  simp only [addTask, plain, List.map_append, List.map_cons, List.map_nil]

theorem CacheState.setTask_plain (t : Task) :
    s.plain.setTask id t.plain = (s.setTask id t).plain := by
  simp only [setTask, plain, List.map_map]
  congr 1
  refine List.map_congr_left fun entry _ => ?_
  by_cases h : entry.1 = id
  · simp [h]
  · simp [h]

theorem CacheState.task?_plain : s.plain.task? id = (s.task? id).map Task.plain := by
  simp only [task?, plain]
  induction s.tasks with
  | nil => rfl
  | cons entry rest ih =>
    rw [List.map_cons, List.lookup_cons, List.lookup_cons, ih]
    split <;> rfl

theorem Task.owner?_plain (call : Nat) (t : Task) :
    t.plain.owner? id call = (t.owner? id call).map Owner.plain := by
  rcases t with ⟨goal, flight⟩ | ⟨request, attempts⟩ | pass
  · simp only [plain, owner?]
    split_ifs <;> rfl
  · rfl
  · simp only [plain, owner?]
    rcases pass.find? call with _ | flight <;> rfl

theorem CacheState.owner?_plain (call : Nat) :
    s.plain.owner? call = (s.owner? call).map Owner.plain := by
  have hfind : (s.plain.tasks.findSome? fun entry => entry.2.owner? entry.1 call)
      = (s.tasks.findSome? fun entry => entry.2.owner? entry.1 call).map Owner.plain := by
    simp only [plain, List.findSome?_map, Function.comp_def, Task.owner?_plain]
    exact (List.map_findSome? ..).symm
  have hback : (s.background.owner? call).map Owner.plain = s.background.owner? call := by
    rcases s.background with ticker | ⟨ticker, pass⟩ | _
    · rfl
    · simp only [Background.owner?]
      rcases pass.find? call with _ | flight <;> rfl
    · rfl
  simp only [owner?, hfind]
  rcases hf : s.tasks.findSome? fun entry => entry.2.owner? entry.1 call with _ | owner
  · simp only [hf]
    exact hback.symm
  · simp only [hf]
    rfl

theorem Goal.cancelled?_plain (goal : Goal) :
    goal.plain.cancelled? s.plain = goal.cancelled? s := by
  cases goal <;> rfl

theorem CacheState.cancelBy_plain (hasCome : Bool) (cancels : Option Token) :
    s.plain.cancelBy hasCome cancels = (s.cancelBy hasCome cancels).plain := by
  unfold cancelBy
  split <;> rfl

end frame

namespace Stepped.Plain

variable (s : CacheState) (id : Nat)

theorem remove {effects effects' : List (CacheEffect γ)}
    (h : HostDialing.asked effects' = HostDialing.asked effects) :
    Plain (s.removeTask id, effects) (s.plain.removeTask id, effects') :=
  ⟨s.removeTask_plain id, h⟩

theorem attemptNext (request : DialRequest) (attempts : Attempts) :
    Plain (s.attemptNext id request attempts : Stepped γ)
      (s.plain.attemptNext id request attempts) := by
  have hc : s.plain.isCancelled request.token = s.isCancelled request.token := rfl
  simp only [CacheState.attemptNext, hc]
  split
  · exact remove s id rfl
  · exact ⟨s.setTask_plain id (.attempting request _), rfl⟩

theorem reach (host : String) (goal : Goal) (result : Except ResolutionError (List String)) :
    Plain (s.reach id host goal result : Stepped γ) (s.plain.reach id host goal.plain result) := by
  rcases goal with _ | _ | order | ⟨request, port⟩
  · exact remove s id rfl
  · exact remove s id rfl
  · rcases result with error | addresses
    · exact remove s id rfl
    · exact remove s id rfl
  · rcases result with error | addresses
    · exact remove s id rfl
    · obtain ⟨hstate, hasked⟩ := attemptNext (γ := γ) s id request
        (.begin (candidates addresses (request.order addresses.length) port))
      exact ⟨hstate, hasked⟩

theorem lookUp (host : String) (goal : Goal) :
    Plain (s.lookUp id host goal : Stepped γ) (s.plain.lookUp id host goal.plain) := by
  have hadd := s.addTask_plain id
    (.resolving goal (Flight.start s.nextCall host s.now s.settings.lookupTimeout))
  have hk : s.plain.entries.known? host = s.entries.known? host := rfl
  simp only [CacheState.lookUp, hk]
  split
  · have hr := reach (γ := γ) (s.addTask id
      (.resolving goal (Flight.start s.nextCall host s.now s.settings.lookupTimeout))) id host goal
    rw [← hadd] at hr
    exact hr _
  · exact ⟨congrArg (fun t : CacheState => { t with nextCall := s.nextCall + 1 }) hadd, rfl⟩

theorem keepRefresh (p : Pass) :
    Plain (s.keepRefresh id p : Stepped γ) (s.plain.keepRefresh id p) := by
  unfold CacheState.keepRefresh
  split
  · exact remove s id rfl
  · exact ⟨s.setTask_plain id (.refreshing p), rfl⟩

/-- The same effects before both. -/
theorem prepend {r r' : Stepped γ} (h : Plain r r') (effects : List (CacheEffect γ)) :
    Plain (r.1, effects ++ r.2) (r'.1, effects ++ r'.2) :=
  ⟨h.state, by rw [asked_append, asked_append, h.asked]⟩

theorem start (request : Request) :
    Plain (s.start request : Stepped γ) (s.plain.start request.plain) := by
  set t : CacheState := { s with nextTask := s.nextTask + 1 }
  rcases request with host | host | ⟨host, order⟩ | request | hosts
  · exact lookUp t s.nextTask host .addresses
  · exact lookUp t s.nextTask host .warmth
  · exact lookUp t s.nextTask host (.sockets order)
  · have hlookUp (target : Target) :=
      lookUp (γ := γ) t s.nextTask target.host (.dial request target.port)
    simp only [CacheState.start, Request.plain]
    split
    · exact ⟨rfl, rfl⟩
    · rename_i target _
      have hc : ({ s.plain with nextTask := s.plain.nextTask + 1 } : CacheState).isCancelled
        request.token = t.isCancelled request.token := rfl
      rw [hc]
      split
      · exact ⟨rfl, rfl⟩
      · exact hlookUp target
  · have hk := keepRefresh (γ := γ) (s.refreshing hosts) s.nextTask (s.firstPass hosts)
    have hadd := t.addTask_plain s.nextTask (.refreshing (Pass.over (s.passHosts hosts)))
    have hr : (s.refreshing hosts).plain = s.plain.refreshing hosts :=
      congrArg (fun u : CacheState => { u with
        nextCall := s.nextCall + (s.firstAsked hosts).length }) hadd.symm
    rw [hr] at hk
    exact hk.prepend ((s.firstAsked hosts).map .resolve)

theorem endLookup (goal : Goal) (flight : Flight) (answer : Option Answer) :
    Plain (s.endLookup id goal flight answer : Stepped γ)
      (s.plain.endLookup id goal.plain flight answer) := by
  have hs : s.plain.settings = s.settings := rfl
  simp only [CacheState.endLookup, hs]
  split
  · rename_i addresses _
    have hr := reach (γ := γ) { s with entries := s.entries.insert flight.host addresses } id
      flight.host goal (.ok addresses)
    exact hr.prepend [.learned flight.host addresses]
  · exact reach s id flight.host goal _

theorem conclude (owner : Owner) (answer : Option Answer) :
    Plain (s.conclude answer owner : Stepped γ) (s.plain.conclude answer owner.plain) := by
  rcases owner with ⟨id, goal, flight⟩ | ⟨id, pass, flight⟩ | ⟨ticker, pass, flight⟩
  · exact endLookup s id goal flight answer
  · set ended := (s.endQuestion pass flight answer : Pass × CacheState × List (CacheEffect γ))
    have hk := keepRefresh (γ := γ) ended.2.1 id ended.1
    exact hk.prepend ended.2.2
  · exact ⟨rfl, rfl⟩

theorem answer (call : Nat) (answer : Option Answer) (cancels : Option Token) :
    Plain (s.takeAnswer call answer cancels : Stepped γ)
      (s.plain.takeAnswer call answer cancels) := by
  simp only [CacheState.takeAnswer, s.owner?_plain, s.cancelBy_plain]
  set t := s.cancelBy answer.isSome cancels
  have hnow : t.plain.now = t.now := rfl
  rcases s.owner? call with _ | ⟨id, goal, flight⟩ | ⟨id, pass, flight⟩ | ⟨ticker, pass, flight⟩
  · exact ⟨rfl, rfl⟩
  · simp only [Option.map_some, Owner.plain, goal.cancelled?_plain, hnow]
    rcases goal.cancelled? s with _ | error
    · rcases flight.outcome? t.now answer with _ | a
      · exact ⟨rfl, rfl⟩
      · exact endLookup t id goal flight a
    · exact remove s id rfl
  · simp only [Option.map_some, Owner.plain, hnow]
    rcases flight.outcome? t.now answer with _ | a
    · exact ⟨rfl, rfl⟩
    · exact conclude t (.refresh id pass flight) a
  · simp only [Option.map_some, Owner.plain, hnow]
    rcases flight.outcome? t.now answer with _ | a
    · exact ⟨rfl, rfl⟩
    · exact conclude t (.background ticker pass flight) a

theorem outcome (given : Option (Except IoError γ)) (cancels : Option Token) :
    Plain (s.takeOutcome id given cancels) (s.plain.takeOutcome id given cancels) := by
  simp only [CacheState.takeOutcome, s.task?_plain, s.cancelBy_plain]
  rcases s.task? id with _ | ⟨goal, flight⟩ | ⟨request, attempts⟩ | pass
  · exact ⟨rfl, rfl⟩
  · exact ⟨rfl, rfl⟩
  · have hc : s.plain.isCancelled request.token = s.isCancelled request.token := rfl
    simp only [Option.map_some, Task.plain, hc]
    split
    · exact remove s id rfl
    · rcases given with _ | error | connection
      · exact ⟨rfl, rfl⟩
      · exact attemptNext (s.cancelBy true cancels) id request (attempts.failed error)
      · exact remove (s.cancelBy true cancels) id rfl
  · exact ⟨rfl, rfl⟩

theorem tick (hosts : List String) :
    Plain (s.takeTick hosts : Stepped γ) (s.plain.takeTick hosts) := by
  have halive : s.plain.isAlive = s.isAlive := by
    simp [CacheState.isAlive, CacheState.plain]
  have hback : s.plain.background = s.background := rfl
  have hnow : s.plain.now = s.now := rfl
  simp only [CacheState.takeTick, hback, hnow, halive]
  split
  · split_ifs
    · exact ⟨rfl, rfl⟩
    · exact ⟨rfl, rfl⟩
    · exact ⟨rfl, rfl⟩
  · exact ⟨rfl, rfl⟩

end Stepped.Plain

/-- It makes no difference to a step what the lookups are for. -/
theorem CacheState.step_plain (s : CacheState) (e : CacheEvent γ) :
    Stepped.Plain (s.step e) (s.plain.step e.plain) := by
  rcases e with request | ⟨call, answer, cancels⟩ | ⟨task, outcome, cancels⟩ | token | task
    | _ | _ | _ | hosts | nanos
  case start => exact .start s request
  case answer => exact .answer s call answer cancels
  case outcome => exact .outcome s task outcome cancels
  case abort => exact .remove s task rfl
  case tick => exact .tick s hosts
  all_goals exact ⟨rfl, rfl⟩

theorem CacheState.after_plain (es : List (CacheEvent γ)) :
    ∀ s : CacheState, s.plain.after (es.map CacheEvent.plain) = (s.after es).plain
      ∧ asked (s.plain.effects (es.map CacheEvent.plain)) = asked (s.effects es) := by
  induction es with
  | nil => exact fun s => ⟨rfl, rfl⟩
  | cons e es ih =>
    intro s
    obtain ⟨hstate, hasked⟩ := s.step_plain e
    obtain ⟨hafter, hrest⟩ := ih (s.step e).1
    simp only [List.map_cons, after, effects, asked_append, hstate, hasked, hafter, hrest,
      and_self]

end HostDialing

import HostDialing.Proofs.Cache.Questions

/-!
# Stopped caches

A stop stands in a run where the background task sees it. From there on that task begins nothing
and waits for nothing, and everything else goes on as on a cache that was not stopped and whose
background task makes no pass (`CacheState.stopped_for_good`): no step but a tick looks whether the
cache is stopped, and only a tick and an answer to a question of a pass look at the background task,
so another background task without a pass makes no difference to the rest
(`CacheState.step_withBackground`).
-/

namespace HostDialing

variable {γ : Type}

/-- The cache with another background task, stopped or not. -/
def CacheState.withBackground (s : CacheState) (b : Background) (isStopped : Bool) : CacheState :=
  { s with background := b, isStopped := isStopped }

def Stepped.withBackground (r : Stepped γ) (b : Background) (isStopped : Bool) : Stepped γ :=
  (r.1.withBackground b isStopped, r.2)

section frame

variable (s : CacheState) (b : Background) (isStopped : Bool)

theorem CacheState.attemptNext_withBackground (id : Nat) (request : DialRequest)
    (attempts : Attempts) :
    ((s.withBackground b isStopped).attemptNext id request attempts : Stepped γ)
      = Stepped.withBackground (s.attemptNext id request attempts) b isStopped := by
  have hc : (s.withBackground b isStopped).isCancelled = s.isCancelled := rfl
  simp only [attemptNext, hc]
  split <;> rfl

theorem CacheState.reach_withBackground (id : Nat) (host : String) (goal : Goal)
    (result : Except ResolutionError (List String)) :
    ((s.withBackground b isStopped).reach id host goal result : Stepped γ)
      = Stepped.withBackground (s.reach id host goal result) b isStopped := by
  unfold reach
  split
  case h_6 =>
    simp only [attemptNext_withBackground]
    rfl
  all_goals rfl

theorem CacheState.lookUp_withBackground (id : Nat) (host : String) (goal : Goal) :
    ((s.withBackground b isStopped).lookUp id host goal : Stepped γ)
      = Stepped.withBackground (s.lookUp id host goal) b isStopped := by
  have hk : (s.withBackground b isStopped).entries = s.entries := rfl
  simp only [lookUp, hk]
  split
  · exact reach_withBackground (s.addTask id _) b isStopped id host goal _
  · rfl

theorem CacheState.keepRefresh_withBackground (id : Nat) (p : Pass) :
    ((s.withBackground b isStopped).keepRefresh id p : Stepped γ)
      = Stepped.withBackground (s.keepRefresh id p) b isStopped := by
  unfold keepRefresh
  split <;> rfl

theorem CacheState.start_withBackground (request : Request) :
    ((s.withBackground b isStopped).start request : Stepped γ)
      = Stepped.withBackground (s.start request) b isStopped := by
  rcases request with host | host | ⟨host, order⟩ | request | hosts
  case dial =>
    simp only [start]
    split
    · rfl
    · rename_i target _
      have hl := lookUp_withBackground (γ := γ) { s with nextTask := s.nextTask + 1 } b isStopped
        s.nextTask target.host (.dial request target.port)
      by_cases h : s.isCancelled request.token
      · have h₁ : ({ s with nextTask := s.nextTask + 1 } : CacheState).isCancelled
          request.token := h
        rw [if_pos h₁]
        exact if_pos h
      · have h₁ : ¬ ({ s with nextTask := s.nextTask + 1 } : CacheState).isCancelled
          request.token := h
        rw [if_neg h₁]
        exact (if_neg h).trans hl
  case refresh =>
    have hk := keepRefresh_withBackground (γ := γ) (s.refreshing hosts) b isStopped s.nextTask
      (s.firstPass hosts)
    exact congrArg (fun r : Stepped γ => (r.1, (s.firstAsked hosts).map .resolve ++ r.2)) hk
  all_goals exact lookUp_withBackground { s with nextTask := s.nextTask + 1 } b isStopped _ _ _

theorem CacheState.endLookup_withBackground (id : Nat) (goal : Goal) (flight : Flight)
    (answer : Option Answer) :
    ((s.withBackground b isStopped).endLookup id goal flight answer : Stepped γ)
      = Stepped.withBackground (s.endLookup id goal flight answer) b isStopped := by
  have hs : (s.withBackground b isStopped).settings = s.settings := rfl
  simp only [endLookup, hs]
  split
  · rename_i addresses _
    have hr := reach_withBackground (γ := γ)
      { s with entries := s.entries.insert flight.host addresses } b isStopped id flight.host goal
      (.ok addresses)
    exact congrArg (fun r : Stepped γ => (r.1, .learned flight.host addresses :: r.2)) hr
  · exact reach_withBackground s b isStopped id flight.host goal _

theorem CacheState.cancelBy_withBackground (hasCome : Bool) (cancels : Option Token) :
    (s.withBackground b isStopped).cancelBy hasCome cancels
      = (s.cancelBy hasCome cancels).withBackground b isStopped := by
  unfold cancelBy
  split <;> rfl

theorem CacheState.takeOutcome_withBackground (id : Nat) (outcome : Option (Except IoError γ))
    (cancels : Option Token) :
    (s.withBackground b isStopped).takeOutcome id outcome cancels
      = Stepped.withBackground (s.takeOutcome id outcome cancels) b isStopped := by
  have ht : (s.withBackground b isStopped).task? id = s.task? id := rfl
  simp only [takeOutcome, ht, cancelBy_withBackground]
  split
  · rename_i request attempts _
    have hc : (s.withBackground b isStopped).isCancelled = s.isCancelled := rfl
    rw [hc]
    split
    · rfl
    · rcases outcome with _ | error | connection
      · rfl
      · exact attemptNext_withBackground (s.cancelBy true cancels) b isStopped id request _
      · rfl
  · rfl

end frame

/-- Without a pass no answer is the background task's. -/
theorem CacheState.owner?_of_idle {s : CacheState} (h : s.background.flights = []) {call : Nat}
    {owner : Owner} (ho : s.owner? call = some owner) : owner.id?.isSome := by
  obtain ⟨hw, -⟩ := owner?_spec ho
  rcases owner with ⟨id, goal, flight⟩ | ⟨id, pass, flight⟩ | ⟨ticker, pass, flight⟩
  · rfl
  · rfl
  · have hf : pass.inFlight = [] := by
      rw [hw.1] at h
      exact h
    exact absurd hw.2 (by simp [hf])

theorem CacheState.owner?_withBackground {s : CacheState} (hs : s.background.flights = [])
    {b : Background} (hb : b.flights = []) (isStopped : Bool) (call : Nat) :
    (s.withBackground b isStopped).owner? call = s.owner? call := by
  have hidle : ∀ b : Background, b.flights = [] → b.owner? call = none := by
    intro b hb
    cases b with
    | passing ticker pass =>
      have hf : pass.inFlight = [] := hb
      simp [Background.owner?, Pass.find?, hf]
    | _ => rfl
  simp only [owner?, withBackground, hidle _ hs, hidle b hb]

theorem CacheState.takeAnswer_withBackground {s : CacheState} (hs : s.background.flights = [])
    {b : Background} (hb : b.flights = []) (isStopped : Bool) (call : Nat)
    (answer : Option Answer) (cancels : Option Token) :
    ((s.withBackground b isStopped).takeAnswer call answer cancels : Stepped γ)
      = Stepped.withBackground (s.takeAnswer call answer cancels) b isStopped := by
  simp only [takeAnswer, owner?_withBackground hs hb, cancelBy_withBackground]
  set t := s.cancelBy answer.isSome cancels
  have hnow : (t.withBackground b isStopped).now = t.now := rfl
  rcases ho : s.owner? call with _ | ⟨id, goal, flight⟩ | ⟨id, pass, flight⟩
      | ⟨ticker, pass, flight⟩
  · rfl
  · have hc : goal.cancelled? (s.withBackground b isStopped) = goal.cancelled? s := by
      cases goal <;> rfl
    simp only [hc, hnow]
    rcases goal.cancelled? s with _ | error
    · rcases flight.outcome? t.now answer with _ | a
      · rfl
      · exact endLookup_withBackground t b isStopped id goal flight a
    · rfl
  · simp only [hnow]
    rcases flight.outcome? t.now answer with _ | a
    · rfl
    · have hk := keepRefresh_withBackground (γ := γ)
        (t.endQuestion pass flight a : Pass × CacheState × List (CacheEffect γ)).2.1 b isStopped id
        (t.endQuestion pass flight a : Pass × CacheState × List (CacheEffect γ)).1
      exact congrArg (fun r : Stepped γ => (r.1, (t.endQuestion pass flight a).2.2 ++ r.2)) hk
  · exact absurd (owner?_of_idle hs ho) (by simp [Owner.id?])

/-- Where neither makes a pass, another background task makes no difference to any step but a tick
and a stop. -/
theorem CacheState.step_withBackground {s : CacheState} (hs : s.background.flights = [])
    {b : Background} (hb : b.flights = []) (isStopped : Bool) {e : CacheEvent γ}
    (htick : ∀ hosts, e ≠ .tick hosts) (hstop : e ≠ .stop) :
    (s.withBackground b isStopped).step e = Stepped.withBackground (s.step e) b isStopped := by
  rcases e with request | ⟨call, answer, cancels⟩ | ⟨task, outcome, cancels⟩ | token | task
    | _ | _ | _ | hosts | nanos
  case start => exact s.start_withBackground b isStopped request
  case answer => exact takeAnswer_withBackground hs hb isStopped call answer cancels
  case outcome => exact s.takeOutcome_withBackground b isStopped task outcome cancels
  case stop => exact absurd rfl hstop
  case tick => exact absurd rfl (htick hosts)
  all_goals rfl

/-- Such a step leaves the background task as it is. -/
theorem CacheState.background_step {s : CacheState} (hs : s.background.flights = [])
    {e : CacheEvent γ} (htick : ∀ hosts, e ≠ .tick hosts) (hstop : e ≠ .stop) :
    (s.step e).1.background = s.background ∧ (s.step e).1.isStopped = s.isStopped := by
  have h : s.step e = Stepped.withBackground (s.step e) s.background s.isStopped :=
    step_withBackground hs hs s.isStopped htick hstop
  rw [h]
  exact ⟨rfl, rfl⟩

/-- Neither a tick nor a stop. -/
def CacheEvent.isForeground : CacheEvent γ → Bool
  | tick _ => false
  | stop => false
  | _ => true

/-- A stopped cache runs as one that is not stopped and takes no tick. -/
theorem CacheState.after_stopped {s : CacheState} (hs : s.background.flights = [])
    (es : List (CacheEvent γ)) :
    (s.withBackground .ended true).after es
        = (s.after (es.filter CacheEvent.isForeground)).withBackground .ended true
      ∧ (s.withBackground .ended true).effects es
        = s.effects (es.filter CacheEvent.isForeground) := by
  induction es generalizing s with
  | nil => exact ⟨rfl, rfl⟩
  | cons e es ih =>
    by_cases he : e.isForeground
    case neg =>
      have hstep : (s.withBackground .ended true).step e = (s.withBackground .ended true, []) := by
        cases e <;> first | rfl | exact absurd rfl he
      rw [List.filter_cons_of_neg he, after, effects, hstep]
      exact ih hs
    have htick : ∀ hosts, e ≠ .tick hosts := by
      rintro hosts rfl
      simp [CacheEvent.isForeground] at he
    have hstop : e ≠ .stop := by
      rintro rfl
      simp [CacheEvent.isForeground] at he
    have hstep := step_withBackground (b := .ended) hs rfl true htick hstop
    have hidle : (s.step e).1.background.flights = [] := by
      rw [(background_step hs htick hstop).1]
      exact hs
    obtain ⟨hafter, heffects⟩ := ih hidle
    rw [List.filter_cons_of_pos he, after, effects, hstep]
    exact ⟨hafter, congrArg ((s.step e).2 ++ ·) heffects⟩

/-- Once a cache is stopped it stays so, and to stop it again changes nothing. Its background task
takes no tick and waits for no answer; everything else is done, with the same effects and the same
entries, as on the cache that was not stopped, with a background task that takes no tick. -/
theorem CacheState.stopped_for_good (s : CacheState) (es : List (CacheEvent γ)) (ticker : Ticker) :
    let stopped := (s.step (.stop : CacheEvent γ)).1
    let unstopped := s.withBackground (.waiting ticker) false
    let t := stopped.after es
    (t.isStopped = true ∧ t.step (.stop : CacheEvent γ) = (t, []))
      ∧ (∀ hosts, t.step (.tick hosts : CacheEvent γ) = (t, []))
      ∧ (∀ call owner, t.owner? call = some owner → owner.id?.isSome)
      ∧ t = (unstopped.after (es.filter CacheEvent.isForeground)).withBackground .ended true
      ∧ stopped.effects es = unstopped.effects (es.filter CacheEvent.isForeground) := by
  intro stopped unstopped t
  obtain ⟨hafter, heffects⟩ := after_stopped (s := unstopped) rfl es
  have ht : t = (unstopped.after (es.filter CacheEvent.isForeground)).withBackground .ended true :=
    hafter
  have hidle : t.background.flights = [] := by
    rw [ht]
    rfl
  refine ⟨?_, ?_, fun call owner ho => owner?_of_idle hidle ho, ht, heffects⟩
  · rw [ht]
    exact ⟨rfl, rfl⟩
  · rw [ht]
    exact fun hosts => rfl

end HostDialing

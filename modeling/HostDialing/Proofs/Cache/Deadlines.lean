import HostDialing.Proofs.Cache.Cadence
import HostDialing.Settings.Env

/-!
# Deadlines past the end of the clock

Valid settings may name durations that are longer than what is left of the clock. A deadline that
the clock cannot hold is then one far ahead, which makes no difference until one of the two comes
(`Instant.deadline_le_iff`). The first tick is the exception: where the clock cannot hold it the
background task ends before it has begun, and the cache, made like any other, runs from then on as
one that was stopped, without saying so (`CacheState.runs_as_stopped`). Where the clock holds the
first tick, no deadline ever ends the background task (`CacheState.lasts_iff`).
-/

namespace HostDialing

variable {γ : Type}

/-- The instant a duration later, or one far ahead if the clock cannot hold it. -/
def Instant.sumOr (t far : Instant) (d : Duration) : Instant := (t.add? d).getD far

theorem Instant.add?_eq_none_iff {t : Instant} {d : Duration} :
    t.add? d = none ↔ Instant.limit ≤ t.nanos + d.totalNanos := by
  rw [add?, ite_eq_right_iff, ← Nat.not_lt]
  exact forall_congr' fun _ => iff_of_false nofun id

/-- While neither the end of the clock nor the instant far ahead has come, a deadline has come if
and only if the one that is held in its place has. -/
theorem Instant.deadline_le_iff {t far now : Instant} {d : Duration}
    (hclock : now.nanos < Instant.limit) (hfar : now < far) :
    t.deadline d ≤ now ↔ t.sumOr far d ≤ now := by
  have hfar : now.nanos < far.nanos := hfar
  rcases hsum : t.add? d with _ | sum
  · have hlimit := add?_eq_none_iff.1 hsum
    show t.nanos + d.totalNanos ≤ now.nanos ↔ ((t.add? d).getD far).nanos ≤ now.nanos
    rw [hsum, Option.getD_none]
    omega
  · obtain ⟨-, hsum'⟩ := Option.ite_none_right_eq_some.1 hsum
    rw [sumOr, hsum, ← Option.some.inj hsum']
    rfl

/-- The instant from which the next tick is counted. -/
def Beat.base (b : Beat) : Instant :=
  if b.begun.nanos ≤ b.due.nanos + tickTolerance then b.due else b.begun

/-- Every question is asked now, with a deadline a timeout ahead. -/
theorem CacheState.asked_step {s : CacheState} {e : CacheEvent γ} {flight : Flight}
    (h : flight ∈ asked (s.step e).2) :
    flight = .start flight.call flight.host s.now s.settings.lookupTimeout := by
  rcases e with request | ⟨call, given, cancels⟩ | ⟨task, outcome, cancels⟩ | token | task
    | _ | _ | _ | order | nanos
  case start =>
    rcases s.start_cases (γ := γ) request with ⟨host, goal, -, hs⟩ | ⟨order, rfl⟩ | ⟨error, -, hs⟩
    · rw [step, hs, lookUp] at h
      simp only [] at h
      split at h
      · rw [asked_of_task (Stepped.Drops.reach _ _ _ _ _).effects] at h
        simp at h
      · obtain rfl := List.mem_singleton.1 h
        rfl
    · rw [step, start_refresh, asked_append, asked_map_resolve,
        (keepRefresh_state (γ := γ) _ s.nextTask _).2, List.append_nil] at h
      exact (Pass.mem_starting h).2
    · rw [step, hs] at h
      simp [asked] at h
  case answer =>
    rcases s.answer_cases (γ := γ) call given cancels with ⟨owner, a, cancelled, -, -, -, hs⟩
      | ⟨cancelled, -, -, hs⟩ | ⟨id, goal, flight', error, -, -, -, hs⟩ <;> rw [hs] at h
    · rcases owner with ⟨id, goal, flight'⟩ | ⟨id, pass, flight'⟩ | ⟨ticker, pass, flight'⟩
      · have hreach : ∀ t : CacheState, ∀ result, asked
            (t.reach id flight'.host goal result : Stepped γ).2 = [] := fun t result =>
          asked_of_task (Stepped.Drops.reach t id flight'.host goal result).effects
        simp only [conclude, endLookup] at h
        split at h
        · rw [← List.singleton_append, asked_append, hreach] at h
          simp [asked] at h
        · rw [hreach] at h
          simp at h
      · simp only [conclude, asked_append, asked_endQuestion,
          (keepRefresh_state (γ := γ) _ id _).2, List.append_nil] at h
        exact (Pass.mem_starting h).2
      · rw [conclude, asked_endQuestion] at h
        exact (Pass.mem_starting h).2
    · simp [asked] at h
    · simp [asked] at h
  case outcome =>
    obtain ⟨cancelled, -, hs | ⟨result, hs⟩ | ⟨request, attempts, hs⟩⟩ :=
      s.outcome_cases task outcome cancels <;> rw [hs] at h
    · simp [asked] at h
    · simp [asked] at h
    · rw [asked_of_task (Stepped.Drops.attemptNext _ task request attempts).effects] at h
      simp at h
  case tick =>
    simp only [step, takeTick] at h
    split at h
    · split_ifs at h
      · simp [asked] at h
      · simp [asked] at h
      · rw [fillPass, asked_map_resolve] at h
        exact (Pass.mem_starting h).2
    · simp [asked] at h
  all_goals simp [step, asked] at h

/-- Every question in the air has its deadline a timeout after it was asked. -/
def CacheState.Timed (s : CacheState) : Prop :=
  ∀ flight ∈ s.flights, flight.deadline = flight.started.deadline s.settings.lookupTimeout

theorem CacheState.timed_after (settings : Settings) (now : Instant) (es : List (CacheEvent γ)) :
    ((fresh settings now).after es).Timed := by
  induction es using List.reverseRecOn with
  | nil =>
    intro flight hf
    rw [after, flights_fresh] at hf
    simp at hf
  | append_singleton es e ih =>
    rw [after_append, after_singleton]
    have hcounted := step_counted ((numbered_fresh settings now).after es) e
    intro flight hf
    rw [hcounted.settings]
    rcases List.mem_append.1 (hcounted.flights.subset hf) with hf | hf
    · exact ih flight hf
    · rw [asked_step hf]
      rfl

theorem Flight.deadline_le_of_outcome? {f : Flight} {now : Instant} {given : Option Answer}
    (h : f.outcome? now given = some none) : f.deadline ≤ now := by
  rcases given with _ | answer
  · exact (Option.ite_none_right_eq_some.1 h).1
  · by_cases htime : now ≤ f.deadline
    · simp [outcome?, htime] at h
    · exact Nat.le_of_lt (Nat.lt_of_not_le htime)

/-- Who waits for an answer in vain waits until the deadline. -/
theorem CacheState.deadline_le_of_ended {s : CacheState} {e : CacheEvent γ} {owner : Owner}
    (h : s.ended? e = some (owner, none)) : owner.flight.deadline ≤ s.now := by
  obtain ⟨call, answer, cancels, rfl⟩ := answer_of_ended h
  exact Flight.deadline_le_of_outcome? (owner_of_ended h).2.2

/-- Each question of a background pass ends where there is an answer, or at its deadline. -/
theorem CacheState.ends_question {s : CacheState} (hn : s.Numbered) {flight : Flight}
    (hf : flight ∈ s.background.flights) {given : Option Answer}
    (hcomes : given.isSome ∨ flight.deadline ≤ s.now) (cancels : Option Token) :
    s.endedIn none (.answer flight.call given cancels : CacheEvent γ) = [flight] := by
  rw [Background.flights_eq] at hf
  rcases hp : s.background.pass? with _ | p <;> rw [hp] at hf
  · simp at hf
  have hcarries : s.Carries none (some p) := hp
  obtain ⟨owner, hwaits, rfl, hid, hnot⟩ := hcarries.exists_owner hf
  rcases houtcome : owner.flight.outcome? s.now given with _ | answer
  · exact absurd hcomes (Flight.outcome?_eq_none_iff.1 houtcome)
  · simp [endedIn, ended?, hn.owner?_of_waits hwaits, hnot, houtcome, hid]

theorem CacheState.background_of_retires {s : CacheState} {e : CacheEvent γ} (h : s.retires e) :
    (s.step e).1.background = .ended := by
  unfold retires at h
  split at h
  · rfl
  · rename_i order ticker hb
    rw [Bool.and_eq_true, Bool.not_eq_true'] at h
    simp [step, takeTick, hb, h.1, h.2]
  · simp at h

/-- A background task goes on until it is stopped or finds its cache given up. -/
theorem CacheState.lasts_iff {s : CacheState} (h : s.background ≠ .ended)
    (es : List (CacheEvent γ)) :
    (s.after es).background ≠ .ended ↔ Throughout (fun t e => !t.retires e) s es := by
  induction es generalizing s with
  | nil => exact iff_of_true h trivial
  | cons e es ih =>
    rw [Throughout]
    by_cases hretires : s.retires e
    · refine iff_of_false (fun hnot => hnot ?_) (by simp [hretires])
      exact background_after (background_of_retires hretires) es
    · have hgoes : (s.step e).1.background ≠ .ended := by
        rcases s.tickerStep e with ⟨ticker, -, -, -, hnext⟩ | ⟨-, hkeeps, -⟩ | ⟨-, -, hends⟩
        · intro hended
          simp [hended, Background.ticker?] at hnext
        · intro hended
          rw [hended] at hkeeps
          cases hb : s.background <;> simp_all [Background.ticker?]
        · exact absurd hends hretires
      rw [after, ih hgoes]
      simp [hretires]

/-- Without a background task a cache runs as if it were stopped, and to stop it at the end is as
good as at the start. Until then it does not say that it is stopped. -/
theorem CacheState.runs_as_stopped {s : CacheState} (h : s.background = .ended)
    (es : List (CacheEvent γ)) :
    s.effects es = (s.withBackground .ended true).effects es
      ∧ (s.after es).withBackground .ended true = (s.withBackground .ended true).after es
      ∧ ((∀ e ∈ es, e ≠ .stop) → (s.after es).isStopped = s.isStopped) := by
  induction es generalizing s with
  | nil => exact ⟨rfl, rfl, fun _ => rfl⟩
  | cons e es ih =>
    have hidle : s.background.flights = [] := by rw [h]; rfl
    have hended : (s.step e).1.background = .ended := background_after h [e]
    obtain ⟨heffects, hafter, hsays⟩ := ih hended
    have hstep : (s.withBackground .ended true).step e
        = Stepped.withBackground (s.step e) .ended true := by
      by_cases hstop : e = .stop
      · rw [hstop]
        rfl
      by_cases htick : ∃ order, e = .tick order
      · obtain ⟨order, rfl⟩ := htick
        simp only [step, takeTick, h]
        rfl
      · exact step_withBackground hidle rfl true (fun order ho => htick ⟨order, ho⟩) hstop
    refine ⟨?_, ?_, fun hes => ?_⟩
    · rw [effects, effects, hstep, heffects]
      rfl
    · rw [after, after, hstep, hafter]
      rfl
    · obtain ⟨hstop, hes⟩ := List.forall_mem_cons.1 hes
      rw [after, hsays hes]
      by_cases htick : ∃ order, e = .tick order
      · obtain ⟨order, rfl⟩ := htick
        simp only [step, takeTick, h]
      · exact (background_step hidle (fun order ho => htick ⟨order, ho⟩) hstop).2

theorem CacheState.background_fresh_eq_ended_iff (settings : Settings) (now : Instant) :
    (fresh settings now).background = .ended
      ↔ Instant.limit ≤ now.nanos + settings.refreshInterval.totalNanos := by
  have hstart : Ticker.start? now settings.refreshInterval = none
      ↔ now.add? settings.refreshInterval = none := Option.map_eq_none_iff
  rw [← Instant.add?_eq_none_iff, ← hstart]
  unfold fresh
  generalize Ticker.start? now settings.refreshInterval = start
  cases start <;> simp

/-- The settings of the longest refresh interval that a variable can give. -/
def endlessSettings : Settings := ⟨.ofSeconds 18446744073709551615, .ofSeconds 10⟩

/-- An environment gives settings that are valid and for which no clock reaches the first tick. -/
theorem CacheState.valid_interval_overflows :
    Settings.ofEnvironment ⟨[(Setting.refreshInterval.key, .text "18446744073709551615")]⟩
        = .ok endlessSettings
      ∧ endlessSettings.validate = .ok ()
      ∧ (⟨0⟩ : Instant).add? endlessSettings.refreshInterval = none
      ∧ (fresh endlessSettings ⟨0⟩).background = .ended
      ∧ ¬ ∀ (settings : Settings) (now : Instant), settings.validate = .ok () →
        now.nanos < Instant.limit → (now.add? settings.refreshInterval).isSome := by
  have hvalid : endlessSettings.validate = .ok () := by decide +kernel
  have hpast : Instant.limit ≤ 0 + endlessSettings.refreshInterval.totalNanos := by
    decide +kernel
  have hnone : (⟨0⟩ : Instant).add? endlessSettings.refreshInterval = none :=
    Instant.add?_eq_none_iff.2 hpast
  refine ⟨by decide +kernel, hvalid, hnone, (background_fresh_eq_ended_iff _ _).2 hpast,
    fun hnever => ?_⟩
  have hsome := hnever endlessSettings ⟨0⟩ hvalid (by decide +kernel)
  rw [hnone] at hsome
  exact absurd hsome (by simp)

/-- A cache with valid settings is made whatever the clock says, and of its deadlines one alone can
be more than the clock holds: the first tick. Where it is, no background pass ever begins, and the
cache runs as one that was stopped at once, without saying so. Where it is not, the background task
goes on until it is stopped or finds its cache given up, whatever the run: the pass after a tick
that it waits for begins at its time, and the questions of the pass that it makes end each where
there is an answer or at its deadline. All later ticks and the deadlines of all questions may be
past the end of the clock, where one far ahead makes no difference. -/
theorem CacheState.first_tick_alone_overflows {settings : Settings}
    (hvalid : settings.validate = .ok ()) (now : Instant) (es : List (CacheEvent γ)) :
    let s := CacheState.fresh settings now
    let t := s.after es
    let stopped := (s.step (.stop : CacheEvent γ)).1
    let period := settings.refreshInterval
    CacheState.open? settings true now = .ok s
    ∧ (Instant.limit ≤ now.nanos + period.totalNanos →
      t.background = .ended ∧ s.beats es = [] ∧ s.effects es = stopped.effects es
      ∧ (t.step (.stop : CacheEvent γ)).1 = stopped.after es
      ∧ ((∀ e ∈ es, e ≠ .stop) → t.isStopped = false))
    ∧ (now.nanos + period.totalNanos < Instant.limit →
      (t.background ≠ .ended ↔ Throughout (fun u e => !u.retires e) s es)
      ∧ (∀ ticker, t.background = .waiting ticker → ∀ later : List (CacheEvent γ),
        Throughout (fun u e => u.isPrompt e) t later →
          Throughout (fun u e => !u.retires e) t later →
            max t.now.nanos ticker.next.nanos < (t.after later).now.nanos →
              ∃ b, (t.beats later).head? = some b ∧ b.due = ticker.next
                ∧ b.begun.nanos = max t.now.nanos ticker.next.nanos)
      ∧ ∀ flight ∈ t.background.flights, ∀ given cancels,
        given.isSome ∨ flight.deadline ≤ t.now →
          t.endedIn none (.answer flight.call given cancels : CacheEvent γ) = [flight])
    ∧ (∀ (e : CacheEvent γ) owner, t.ended? e = some (owner, none) →
      owner.flight.deadline ≤ t.now)
    ∧ ∀ far u : Instant, u.nanos < Instant.limit → u < far →
      (∀ flight ∈ t.flights,
        flight.deadline ≤ u ↔ flight.started.sumOr far settings.lookupTimeout ≤ u)
      ∧ ∀ i b b', (s.beats es)[i]? = some b → (s.beats es)[i + 1]? = some b' →
        (b'.due ≤ u ↔ b.base.sumOr far period ≤ u) := by
  intro s t stopped period
  have hn : t.Numbered := (numbered_fresh settings now).after es
  have hopen : CacheState.open? settings true now = .ok s := by
    rw [CacheState.open?, hvalid]
    rfl
  refine ⟨hopen, fun hpast => ?_, fun hheld => ?_, fun e owner => deadline_le_of_ended,
    fun far u hclock hfar => ⟨fun flight hf => ?_, fun i b b' hi hj => ?_⟩⟩
  · have hended : s.background = .ended := (background_fresh_eq_ended_iff settings now).2 hpast
    obtain ⟨heffects, hafter, hsays⟩ := runs_as_stopped hended es
    exact ⟨background_after hended es, beats_of_ended hended es, heffects, hafter, hsays⟩
  · have hlasts : s.background ≠ .ended :=
      mt (background_fresh_eq_ended_iff settings now).1 (Nat.not_le_of_lt hheld)
    refine ⟨lasts_iff hlasts es, fun ticker hb later hprompt hstays hlt => ?_,
      fun flight hf given cancels hcomes => ends_question hn hf hcomes cancels⟩
    have hgoes : t.background ≠ .ended := by simp [hb]
    obtain ⟨hhead, hbegins⟩ := next_beat hb hprompt
    obtain ⟨b, hhead'⟩ : ∃ b, (t.beats later).head? = some b := by
      rw [← Option.isSome_iff_exists, List.isSome_head?]
      simpa using hbegins ((lasts_iff hgoes later).2 hstays) hlt
    exact ⟨b, hhead', hhead b hhead'⟩
  · rw [timed_after settings now es flight hf, ((numbered_fresh settings now).settings_after es)]
    exact Instant.deadline_le_iff hclock hfar
  · have hfollow : Follow period (now.deadline period) (s.beats es) := by
      rcases background_fresh settings now with hb | hb
      · exact beats_follow (by rw [hb]; rfl) es
      · rw [beats_of_ended hb es]
        exact trivial
    rw [hfollow.next_due hi hj]
    exact Instant.deadline_le_iff hclock hfar

/-- Where the clock does not reach the first tick a host that is known is not asked for again in an
hour, and the cache does not say that it is stopped. Where it does the background task goes on. -/
theorem CacheState.endless_interval_without_pass :
    let hour : List (CacheEvent Unit) := [.start (.prewarm "a"),
      .answer 0 (some (.ok ["1.1.1.1"])) none, .elapse 3600000000000, .tick ["a"]]
    let s := fresh endlessSettings ⟨0⟩
    (endlessSettings.validate = .ok () ∧ s.beats hour = [] ∧ (s.after hour).isStopped = false
        ∧ (s.after hour).entries.known? "a" = some ["1.1.1.1"])
      ∧ steadySettings.validate = .ok ()
      ∧ ((fresh steadySettings ⟨0⟩).after steadyEvents).background ≠ .ended := by
  intro hour s
  have hvalid : endlessSettings.validate = .ok () := by decide +kernel
  have hvalid' : steadySettings.validate = .ok () := by decide +kernel
  obtain ⟨-, hpast, -⟩ := first_tick_alone_overflows hvalid ⟨0⟩ hour
  obtain ⟨-, -, hheld, -⟩ := first_tick_alone_overflows hvalid' ⟨0⟩ steadyEvents
  obtain ⟨-, hbeats, -, -, hsays⟩ := hpast (by decide +kernel)
  exact ⟨⟨hvalid, hbeats, hsays (by simp [hour]), by decide +kernel⟩, hvalid',
    (hheld (by decide +kernel)).1.2 (by decide +kernel)⟩

end HostDialing

import HostDialing.Proofs.Cache.Sweeps

/-!
# The cadence of the background passes

A background pass begins at a tick that is due. The deadlines of the ticks follow one another as
`Beat.next` has it, however long the passes take (`CacheState.beats_follow`). A deadline is never
earlier than five milliseconds before a period after the last pass began, so whatever the passes
that overrun, `n` later passes are never begun in less than `n` periods and those five milliseconds.

Only where the period is shorter than that may a deadline already be over when the pass before it
begins.
-/

namespace HostDialing

variable {γ : Type}

/-- A background pass: when its tick was due, and when it began. -/
structure Beat where
  due : Instant
  begun : Instant
deriving DecidableEq

/-- When the next tick is due. -/
def Beat.next (b : Beat) (period : Duration) : Instant :=
  (if b.begun.nanos ≤ b.due.nanos + tickTolerance then b.due else b.begun).deadline period

/-- The background pass that a step begins. -/
def CacheState.beatIn (s : CacheState) (e : CacheEvent γ) : Option Beat :=
  match e, s.background with
  | .tick _, .waiting ticker =>
    if ticker.isDue s.now && s.isAlive then some ⟨ticker.next, s.now⟩ else none
  | _, _ => none

/-- The background passes that a run begins. -/
def CacheState.beats (s : CacheState) : List (CacheEvent γ) → List Beat
  | [] => []
  | e :: es => (s.beatIn e).toList ++ (s.step e).1.beats es

/-- The ticker of a background task that goes on. -/
def Background.ticker? : Background → Option Ticker
  | waiting ticker => some ticker
  | passing ticker _ => some ticker
  | ended => none

/-- The background task is stopped, or takes a tick and finds its cache given up. -/
def CacheState.retires (s : CacheState) (e : CacheEvent γ) : Bool :=
  match e, s.background with
  | .stop, _ => true
  | .tick _, .waiting ticker => ticker.isDue s.now && !s.isAlive
  | _, _ => false

theorem CacheState.isSome_beatIn {s : CacheState} {e : CacheEvent γ} :
    (s.beatIn e).isSome ↔ s.Begins none e := by
  rcases e with request | _ | _ | _ | _ | _ | _ | _ | order | _
  case start => cases request <;> simp [beatIn, Begins]
  case tick =>
    rcases hb : s.background with ticker | ⟨ticker, pass⟩ | _ <;> simp [beatIn, Begins, hb]
  all_goals simp [beatIn, Begins]

/-- A pass begins where the background task waits for a tick that is due. -/
theorem CacheState.beatIn_eq_some {s : CacheState} {e : CacheEvent γ} {b : Beat}
    (h : s.beatIn e = some b) :
    ∃ ticker, s.background = .waiting ticker ∧ b.due = ticker.next ∧ b.begun = s.now
      ∧ b.due ≤ b.begun := by
  unfold beatIn at h
  split at h
  · rename_i ticker hb
    split_ifs at h with hdue
    rw [Bool.and_eq_true] at hdue
    obtain rfl := Option.some.inj h
    exact ⟨ticker, hb, rfl, rfl, of_decide_eq_true hdue.1⟩
  · simp at h

/-- A step begins a background pass and sets the ticker to the next tick, or leaves the ticker as it
is, or ends the background task. -/
inductive CacheState.TickerStep (s : CacheState) (e : CacheEvent γ) : Prop
  | begins (ticker : Ticker) (waiting : s.background = .waiting ticker)
    (due : ticker.next ≤ s.now) (beat : s.beatIn e = some ⟨ticker.next, s.now⟩)
    (next : (s.step e).1.background.ticker?
      = some ⟨ticker.period, Beat.next ⟨ticker.next, s.now⟩ ticker.period⟩)
  | keeps (none : s.beatIn e = none)
    (ticker : (s.step e).1.background.ticker? = s.background.ticker?)
    (waits : ∀ ticker, s.background = .waiting ticker →
      (s.step e).1.background = .waiting ticker)
  | ends (none : s.beatIn e = none) (ended : (s.step e).1.background = .ended)
    (retires : s.retires e)

theorem CacheState.keepBackground_ticker? (s : CacheState) (ticker : Ticker) (p : Pass) :
    (s.keepBackground ticker p).background.ticker? = some ticker := by
  unfold keepBackground
  split <;> rfl

theorem CacheState.tickerStep (s : CacheState) (e : CacheEvent γ) : s.TickerStep e := by
  by_cases htick : ∃ order, e = .tick order
  · obtain ⟨order, rfl⟩ := htick
    rcases hb : s.background with ticker | ⟨ticker, pass⟩ | _
    · by_cases hdue : ticker.isDue s.now
      · by_cases halive : s.isAlive
        · refine .begins ticker hb (of_decide_eq_true hdue) (by simp [beatIn, hb, hdue, halive]) ?_
          simp only [step, takeTick, hb, hdue, halive]
          exact keepBackground_ticker? _ (ticker.fire s.now) _
        · exact .ends (by simp [beatIn, hb, halive]) (by simp [step, takeTick, hb, hdue, halive])
            (by simp [retires, hb, hdue, halive])
      · have hstep : s.step (.tick order : CacheEvent γ) = (s, []) := by
          simp [step, takeTick, hb, hdue]
        exact .keeps (by simp [beatIn, hb, hdue]) (by rw [hstep]) (by simp [hstep])
    all_goals
      have hstep : s.step (.tick order : CacheEvent γ) = (s, []) := by simp [step, takeTick, hb]
      exact .keeps (by simp [beatIn, hb]) (by rw [hstep]) (by simp [hstep])
  have htick : ∀ order, e ≠ .tick order := fun order he => htick ⟨order, he⟩
  have hnone : s.beatIn e = none := by
    unfold beatIn
    split
    · exact absurd rfl (htick _)
    · rfl
  by_cases hstop : e = .stop
  · exact .ends hnone (by rw [hstop]; rfl) (by rw [hstop]; rfl)
  by_cases hended : ∃ owner answer, s.ended? e = some (owner, answer) ∧ owner.id? = none
  · -- the background task waits on, for the next tick or for the rest of its pass
    obtain ⟨owner, answer, hended, hid⟩ := hended
    have hw := waits_of_ended hended
    obtain ⟨cancelled, -, hstep⟩ := step_of_ended hended
    rcases owner with ⟨id, goal, flight⟩ | ⟨id, pass, flight⟩ | ⟨ticker, pass, flight⟩
    · simp [Owner.id?] at hid
    · simp [Owner.id?] at hid
    · refine .keeps hnone ?_ fun ticker' hb => ?_
      · rw [hstep, hw.1]
        exact keepBackground_ticker? _ ticker _
      · simp [hw.1] at hb
  · have hbackground := background_beside htick hstop fun owner answer he hid =>
      hended ⟨owner, answer, he, hid⟩
    exact .keeps hnone (congrArg Background.ticker? hbackground) fun ticker => hbackground.trans

/-- Background passes one after another: the first is due at an instant, each of the others when the
one before it has it. None begins before it is due. -/
def Follow (period : Duration) : Instant → List Beat → Prop
  | _, [] => True
  | due, b :: bs => b.due = due ∧ due ≤ b.begun ∧ Follow period (b.next period) bs

theorem CacheState.beats_of_ended {s : CacheState} (h : s.background = .ended)
    (es : List (CacheEvent γ)) : s.beats es = [] := by
  induction es generalizing s with
  | nil => rfl
  | cons e es ih =>
    have hnone : s.beatIn e = none := by
      unfold beatIn
      rw [h]
      split <;> simp_all
    have hended : (s.step e).1.background = .ended := background_after h [e]
    rw [beats, hnone, ih hended]
    rfl

/-- Whatever happens, the passes of a background task follow one another. -/
theorem CacheState.beats_follow {s : CacheState} {ticker : Ticker}
    (h : s.background.ticker? = some ticker) (es : List (CacheEvent γ)) :
    Follow ticker.period ticker.next (s.beats es) := by
  induction es generalizing s ticker with
  | nil => exact trivial
  | cons e es ih =>
    rw [beats]
    rcases s.tickerStep e with ⟨ticker', hb, hdue, hbeat, hnext⟩ | ⟨hnone, hkeeps, -⟩
      | ⟨hnone, hended⟩
    · obtain rfl : ticker' = ticker := by simpa [hb, Background.ticker?] using h
      rw [hbeat]
      exact ⟨rfl, hdue, ih hnext⟩
    · rw [hnone]
      exact ih (hkeeps.trans h)
    · rw [hnone, beats_of_ended hended]
      exact trivial

theorem Beat.nanos_next (b : Beat) (period : Duration) :
    (b.next period).nanos = (if b.begun.nanos ≤ b.due.nanos + tickTolerance then b.due.nanos
      else b.begun.nanos) + period.totalNanos :=
  congrArg (· + period.totalNanos) (apply_ite Instant.nanos _ _ _)

theorem Beat.due_le_next {b : Beat} (h : b.due ≤ b.begun) (period : Duration) :
    b.due.nanos + period.totalNanos ≤ (b.next period).nanos := by
  rw [nanos_next]
  split
  · exact Nat.le_refl _
  · exact Nat.add_le_add_right h _

theorem Beat.begun_le_next (b : Beat) (period : Duration) :
    b.begun.nanos + period.totalNanos ≤ (b.next period).nanos + tickTolerance := by
  rw [nanos_next]
  split <;> omega

section follow

variable {period : Duration} {due : Instant} {bs : List Beat}

theorem Follow.of_getElem? (h : Follow period due bs) {k : Nat} {b : Beat}
    (hk : bs[k]? = some b) :
    due.nanos + k * period.totalNanos ≤ b.due.nanos ∧ b.due ≤ b.begun := by
  induction bs generalizing due k with
  | nil => simp at hk
  | cons first bs ih =>
    obtain ⟨rfl, hbegun, hrest⟩ := h
    cases k with
    | zero =>
      obtain rfl : first = b := by simpa using hk
      exact ⟨by simp, hbegun⟩
    | succ k =>
      obtain ⟨hle, hb⟩ := ih hrest (by simpa using hk)
      have hnext := Beat.due_le_next hbegun period
      exact ⟨by rw [Nat.succ_mul]; omega, hb⟩

theorem Follow.drop (h : Follow period due bs) {i : Nat} {b : Beat} (hi : bs[i]? = some b) :
    Follow period (b.next period) (bs.drop (i + 1)) := by
  induction bs generalizing due i with
  | nil => simp at hi
  | cons first bs ih =>
    obtain ⟨-, -, hrest⟩ := h
    cases i with
    | zero =>
      obtain rfl : first = b := by simpa using hi
      exact hrest
    | succ i => exact ih hrest (by simpa using hi)

/-- Later passes are no closer than a period for each, but for the tolerance. -/
theorem Follow.apart (h : Follow period due bs) {i j : Nat} {b b' : Beat} (hij : i < j)
    (hi : bs[i]? = some b) (hj : bs[j]? = some b') :
    b.begun.nanos + (j - i) * period.totalNanos ≤ b'.begun.nanos + tickTolerance := by
  obtain ⟨k, rfl⟩ := Nat.exists_eq_add_of_lt hij
  have hk : (bs.drop (i + 1))[k]? = some b' := by
    rw [List.getElem?_drop, ← hj]
    congr 1
    omega
  obtain ⟨hle, hbegun⟩ := (h.drop hi).of_getElem? hk
  have hbegun : b'.due.nanos ≤ b'.begun.nanos := hbegun
  have hnext := b.begun_le_next period
  rw [show i + k + 1 - i = k + 1 by omega, Nat.succ_mul]
  omega

theorem Follow.next_due (h : Follow period due bs) {i : Nat} {b b' : Beat}
    (hi : bs[i]? = some b) (hj : bs[i + 1]? = some b') : b'.due = b.next period := by
  have hrest := h.drop hi
  rcases hbs : bs.drop (i + 1) with _ | ⟨first, rest⟩
  · rw [List.drop_eq_nil_iff] at hbs
    simp [List.getElem?_eq_none hbs] at hj
  · have hfirst : (bs.drop (i + 1))[0]? = some b' := by simpa using hj
    rw [hbs] at hrest hfirst
    obtain rfl : first = b' := by simpa using hfirst
    exact hrest.1

end follow

theorem Background.flights_eq (b : Background) :
    b.flights = (b.pass?.map Pass.inFlight).getD [] := by
  cases b <;> rfl

theorem Pass.inFlight_of_isDone {p : Pass} (h : p.isDone) : p.inFlight = [] := by
  simp only [isDone, Bool.and_eq_true, List.isEmpty_iff] at h
  exact h.2

/-- The background task waits for the questions of its pass, if that is not done. -/
theorem CacheState.Carries.flights {s : CacheState} {p : Pass}
    (h : s.Carries none (if p.isDone then none else some p)) :
    s.background.flights = p.inFlight := by
  have hp : s.background.pass? = if p.isDone then none else some p := h
  rw [Background.flights_eq, hp]
  split
  · rename_i hd
    rw [p.inFlight_of_isDone hd]
    rfl
  · rfl

/-- Unless the background task has ended, each question that it ever asked has ended or is in
flight. -/
theorem CacheState.background_settled {s : CacheState} (hn : s.Numbered)
    (hidle : s.background.flights = []) (es : List (CacheEvent γ)) :
    (s.after es).background = .ended
      ∨ (s.endedFor none es ++ (s.after es).background.flights).Perm (s.askedFor none es) := by
  induction es using List.reverseRecOn with
  | nil =>
    refine .inr ?_
    rw [after, hidle]
    exact List.Perm.refl _
  | append_singleton es e ih =>
    have ht := hn.after es
    rw [askedFor_concat, endedFor_concat, after_append, after_singleton]
    rcases ih with hended | hperm
    · exact .inl (background_after hended [e])
    by_cases hbegins : (s.after es).Begins none e
    · obtain ⟨hcarries, hasked, hended, -⟩ := hbegins.step ht
      obtain ⟨beat, hbeat⟩ := Option.isSome_iff_exists.1 (isSome_beatIn.2 hbegins)
      obtain ⟨ticker, hb, -⟩ := beatIn_eq_some hbeat
      have hnone : (s.after es).background.flights = [] := by rw [hb]; rfl
      rw [hnone, List.append_nil] at hperm
      rw [hasked, hended, hcarries.flights, List.append_nil]
      exact .inr (hperm.append_right _)
    rw [Background.flights_eq] at hperm
    have hcarries : (s.after es).Carries none (s.after es).background.pass? := rfl
    generalize (s.after es).background.pass? = p at hperm hcarries
    rcases hcarries.step ht hbegins with ⟨hkept, hasked, hended, -⟩ | ⟨hgives, -⟩
      | ⟨hf, isReplaced, hq, hleft, hasked, hended, -⟩
    · have hkept : ((s.after es).step e).1.background.pass? = p := hkept
      rw [hasked, hended, List.append_nil, List.append_nil, Background.flights_eq, hkept]
      exact .inr hperm
    · cases e with
      | stop => exact .inl rfl
      | _ => simp [CacheEvent.GivesUp] at hgives
    · rename_i pass f q
      have hpass := pass.finish_perm (hcarries.calls_nodup ht) hf isReplaced
      rw [hasked, hended, hleft.flights, hq, Pass.fill, List.append_assoc]
      refine .inr (List.Perm.trans ?_ (hperm.append_right _))
      rw [List.append_assoc]
      exact (hpass.symm.append_right _).append_left _

/-- While the background task waits for a tick, no time passes from when the tick is due. -/
def CacheState.isPrompt (s : CacheState) (e : CacheEvent γ) : Bool :=
  match e, s.background with
  | .elapse nanos, .waiting ticker => nanos == 0 || s.now.nanos + nanos ≤ ticker.next.nanos
  | _, _ => true

/-- Where ticks are prompt the next pass begins when it is due, or at once if that is over. -/
theorem CacheState.next_beat {s : CacheState} {ticker : Ticker}
    (hb : s.background = .waiting ticker) {es : List (CacheEvent γ)}
    (hprompt : Throughout (fun t e => t.isPrompt e) s es) :
    (∀ beat ∈ (s.beats es).head?, beat.due = ticker.next
      ∧ beat.begun.nanos = max s.now.nanos ticker.next.nanos)
    ∧ ((s.after es).background ≠ .ended →
      max s.now.nanos ticker.next.nanos < (s.after es).now.nanos → s.beats es ≠ []) := by
  induction es generalizing s with
  | nil =>
    refine ⟨by simp [beats], fun _ hlt => ?_⟩
    exact absurd (Nat.le_max_left _ _) (Nat.not_le_of_lt hlt)
  | cons e es ih =>
    obtain ⟨he, hes⟩ := hprompt
    rcases s.tickerStep e with ⟨ticker', hb', hdue, hbeat, -⟩ | ⟨hnone, -, hwaits⟩ | ⟨hnone, hended⟩
    · obtain rfl : ticker' = ticker := by simpa [hb'] using hb
      rw [beats, hbeat]
      refine ⟨?_, by simp⟩
      rintro beat hbeat
      obtain rfl : ⟨ticker'.next, s.now⟩ = beat := by simpa using hbeat
      exact ⟨rfl, (Nat.max_eq_left hdue).symm⟩
    · have hnow : max (s.step e).1.now.nanos ticker.next.nanos
          = max s.now.nanos ticker.next.nanos := by
        by_cases helapse : ∃ nanos, e = .elapse nanos
        · obtain ⟨nanos, rfl⟩ := helapse
          have hwaited : (s.step (.elapse nanos : CacheEvent γ)).1.now.nanos
            = s.now.nanos + nanos := rfl
          have hintime : nanos = 0 ∨ s.now.nanos + nanos ≤ ticker.next.nanos := by
            simpa [isPrompt, hb] using he
          omega
        · rw [(step_frame fun nanos he => helapse ⟨nanos, he⟩).1]
      have hrest := ih (hwaits ticker hb) hes
      rw [hnow] at hrest
      rw [beats, hnone]
      exact hrest
    · rw [beats, hnone, beats_of_ended hended]
      exact ⟨by simp, fun hnot => absurd (background_after hended es) hnot⟩

theorem Ticker.start?_eq_some {now : Instant} {period : Duration} {ticker : Ticker}
    (h : Ticker.start? now period = some ticker) : ticker = ⟨period, now.deadline period⟩ := by
  obtain ⟨next, hnext, rfl⟩ := Option.map_eq_some_iff.1 h
  unfold Instant.add? at hnext
  obtain ⟨-, hnext⟩ := Option.ite_none_right_eq_some.1 hnext
  rw [← Option.some.inj hnext]
  rfl

/-- The first tick is due a period after the cache is made, if the clock reaches that far. -/
theorem CacheState.background_fresh (settings : Settings) (now : Instant) :
    let ticker := ⟨settings.refreshInterval, now.deadline settings.refreshInterval⟩
    (fresh settings now).background = .waiting ticker
      ∨ (fresh settings now).background = .ended := by
  have hstart : ∀ ticker, Ticker.start? now settings.refreshInterval = some ticker → _ :=
    fun _ => Ticker.start?_eq_some
  unfold fresh
  generalize Ticker.start? now settings.refreshInterval = start at hstart
  rcases start with _ | ticker
  · exact .inr rfl
  · rw [hstart ticker rfl]
    exact .inl rfl

/-- The background passes in a run of a cache, whatever happens to it and however long they take.
Two are never under way at once: when one begins, all questions of those before it have ended. The
first begins no earlier than a period after the cache was made, later ones are no closer to one
another than a period for each, less five milliseconds in all, and where the period is no shorter
than these a pass that is late is due after the one before it began. Where ticks are prompt, the
next pass after a pass has ended begins when it is due, or at once if that is over. -/
theorem CacheState.background_passes_apart (settings : Settings) (now : Instant)
    (es : List (CacheEvent γ)) :
    let s := CacheState.fresh settings now
    let t := s.after es
    let beats := s.beats es
    let period := settings.refreshInterval.totalNanos
    (∀ e : CacheEvent γ, ((t.beatIn e).isSome ↔ t.Begins none e)
      ∧ ∀ b ∈ t.beatIn e, b.begun = t.now ∧ t.passOf? none = none
        ∧ (s.endedFor none es).Perm (s.askedFor none es))
    ∧ (∀ i b, beats[i]? = some b →
      now.nanos + (i + 1) * period ≤ b.due.nanos ∧ b.due.nanos ≤ b.begun.nanos)
    ∧ (∀ i j b b', i < j → beats[i]? = some b → beats[j]? = some b' →
      b.begun.nanos + (j - i) * period ≤ b'.begun.nanos + 5000000)
    ∧ (∀ i b b', beats[i]? = some b → beats[i + 1]? = some b' →
      (b'.due.nanos = (if b.begun.nanos ≤ b.due.nanos + 5000000 then b.due.nanos
        else b.begun.nanos) + period)
      ∧ (5000000 ≤ period → b.begun.nanos ≤ b'.due.nanos))
    ∧ ∀ ticker, t.background = .waiting ticker → ∀ later : List (CacheEvent γ),
      Throughout (fun u e => u.isPrompt e) t later →
      (∀ b ∈ (t.beats later).head?, b.due = ticker.next
        ∧ b.begun.nanos = max t.now.nanos ticker.next.nanos)
      ∧ ((t.after later).background ≠ .ended →
        max t.now.nanos ticker.next.nanos < (t.after later).now.nanos →
          t.beats later ≠ []) := by
  intro s t beats period
  have hn : s.Numbered := numbered_fresh settings now
  obtain ⟨hidle, hfollow⟩ : s.background.flights = []
      ∧ Follow settings.refreshInterval (now.deadline settings.refreshInterval) beats := by
    rcases background_fresh settings now with hb | hb
    · exact ⟨by rw [hb]; rfl, beats_follow (by rw [hb]; rfl) es⟩
    · have hnone : beats = [] := beats_of_ended hb es
      exact ⟨by rw [hb]; rfl, by rw [hnone]; exact trivial⟩
  refine ⟨fun e => ⟨isSome_beatIn, fun b hb => ?_⟩, fun i b hi => ?_, fun i j b b' hij hi hj => ?_,
    fun i b b' hi hj => ?_, fun ticker hb later hprompt => next_beat hb hprompt⟩
  · obtain ⟨ticker, hwaiting, -, hbegun, -⟩ := beatIn_eq_some hb
    refine ⟨hbegun, by rw [CacheState.passOf?, hwaiting]; rfl, ?_⟩
    rcases background_settled hn hidle es with hended | hperm
    · exact absurd (hwaiting.symm.trans hended) (by simp)
    · have hnone : t.background.flights = [] := by rw [hwaiting]; rfl
      rwa [hnone, List.append_nil] at hperm
  · obtain ⟨hle, hbegun⟩ := hfollow.of_getElem? hi
    have hle : now.nanos + period + i * period ≤ b.due.nanos := hle
    refine ⟨?_, hbegun⟩
    rw [Nat.succ_mul]
    omega
  · exact hfollow.apart hij hi hj
  · have hdue := hfollow.next_due hi hj
    have hnext : b.begun.nanos + period ≤ b'.due.nanos + 5000000 := by
      rw [hdue]
      exact b.begun_le_next settings.refreshInterval
    refine ⟨?_, fun hperiod => by omega⟩
    rw [hdue]
    exact b.nanos_next settings.refreshInterval

/-- The settings of a cache that asks again for its hosts every twenty milliseconds. -/
def steadySettings : Settings := ⟨.ofMillis 20, .ofMillis 1000⟩

/-- Its first pass takes seventy milliseconds, the one after it none. -/
def steadyEvents : List (CacheEvent Unit) :=
  [.start (.prewarm "a"), .answer 0 (some (.ok ["1.1.1.1"])) none, .elapse 20000000, .tick ["a"],
    .elapse 70000000, .answer 1 (some (.ok ["2.2.2.2"])) none, .tick ["a"],
    .answer 2 (some (.ok ["3.3.3.3"])) none]

/-- A pass that takes more than three periods is followed by a late one and then by one at its
time. -/
theorem CacheState.late_pass_then_punctual_pass :
    let t := (CacheState.fresh steadySettings ⟨0⟩).after steadyEvents
    let later : List (CacheEvent Unit) := [.elapse 20000000, .tick ["a"]]
    let first : Beat := ⟨⟨20000000⟩, ⟨20000000⟩⟩
    let late : Beat := ⟨⟨40000000⟩, ⟨90000000⟩⟩
    let punctual : Beat := ⟨⟨110000000⟩, ⟨110000000⟩⟩
    let period := steadySettings.refreshInterval.totalNanos
    (CacheState.fresh steadySettings ⟨0⟩).beats steadyEvents = [first, late]
      ∧ t.beats later = [punctual]
      ∧ 0 + (0 + 1) * period ≤ first.due.nanos
      ∧ first.begun.nanos + (1 - 0) * period ≤ late.begun.nanos + 5000000
      ∧ 5000000 ≤ period ∧ first.begun.nanos ≤ late.due.nanos
      ∧ Throughout (fun u e => u.isPrompt e) t later
      ∧ punctual.begun.nanos = max t.now.nanos punctual.due.nanos := by
  intro t later first late punctual period
  have hbeats : (CacheState.fresh steadySettings ⟨0⟩).beats steadyEvents = [first, late] := by
    decide +kernel
  have hlater : t.beats later = [punctual] := by decide +kernel
  have hprompt : Throughout (fun u e => u.isPrompt e) t later := by decide +kernel
  have hperiod : 5000000 ≤ period := by decide +kernel
  obtain ⟨-, hdue, hapart, hnext, hprompts⟩ :=
    background_passes_apart steadySettings ⟨0⟩ steadyEvents
  obtain ⟨ticker, hwaiting⟩ : ∃ ticker, t.background = .waiting ticker := by
    have hsome : t.background.ticker?.isSome := by decide +kernel
    have hpass : t.background.pass?.isNone := by decide +kernel
    rcases hb : t.background with ticker | ⟨ticker, pass⟩ | _
    · exact ⟨ticker, rfl⟩
    · simp [hb, Background.pass?] at hpass
    · simp [hb, Background.ticker?] at hsome
  have hfirst : ((CacheState.fresh steadySettings ⟨0⟩).beats steadyEvents)[0]? = some first := by
    rw [hbeats]; rfl
  have hlate : ((CacheState.fresh steadySettings ⟨0⟩).beats steadyEvents)[1]? = some late := by
    rw [hbeats]; rfl
  have hhead := (hprompts ticker hwaiting later hprompt).1
  have hmem : punctual ∈ (t.beats later).head? := by rw [hlater]; rfl
  obtain ⟨htime, hbegun⟩ := hhead punctual hmem
  refine ⟨hbeats, hlater, (hdue 0 first hfirst).1,
    hapart 0 1 first late Nat.zero_lt_one hfirst hlate, hperiod,
    (hnext 0 first late hfirst hlate).2 hperiod, hprompt, ?_⟩
  rw [htime]
  exact hbegun

/-- The settings of a cache that asks again for its hosts every three milliseconds. -/
def hastySettings : Settings := ⟨.ofMillis 3, .ofMillis 1000⟩

/-- Its first pass takes seven milliseconds, each of those after it none. -/
def hastyEvents : List (CacheEvent Unit) :=
  [.start (.prewarm "a"), .answer 0 (some (.ok ["1.1.1.1"])) none, .elapse 3000000, .tick ["a"],
    .elapse 7000000, .answer 1 (some (.ok ["2.2.2.2"])) none, .tick ["a"],
    .answer 2 (some (.ok ["3.3.3.3"])) none, .tick ["a"],
    .answer 3 (some (.ok ["3.3.3.3"])) none]

/-- A period shorter than the tolerance does not keep the passes after one that overran from
beginning all at once: two are overdue when it ends, and both begin there. -/
theorem CacheState.two_passes_overdue :
    Throughout (fun t e => t.isPrompt e) (CacheState.fresh hastySettings ⟨0⟩) hastyEvents
    ∧ (CacheState.fresh hastySettings ⟨0⟩).beats hastyEvents
      = [⟨⟨3000000⟩, ⟨3000000⟩⟩, ⟨⟨6000000⟩, ⟨10000000⟩⟩, ⟨⟨9000000⟩, ⟨10000000⟩⟩]
    ∧ ¬ ∀ (settings : Settings) (now : Instant) (es : List (CacheEvent Unit)),
      0 < settings.refreshInterval.totalNanos →
        ∀ i b b', ((fresh settings now).beats es)[i]? = some b →
          ((fresh settings now).beats es)[i + 1]? = some b' → b.begun.nanos ≤ b'.due.nanos := by
  have hbeats : (CacheState.fresh hastySettings ⟨0⟩).beats hastyEvents
      = [⟨⟨3000000⟩, ⟨3000000⟩⟩, ⟨⟨6000000⟩, ⟨10000000⟩⟩, ⟨⟨9000000⟩, ⟨10000000⟩⟩] := by
    decide +kernel
  refine ⟨by decide +kernel, hbeats, fun hnever => ?_⟩
  have hle := hnever hastySettings ⟨0⟩ hastyEvents (by decide +kernel) 1
    ⟨⟨6000000⟩, ⟨10000000⟩⟩ ⟨⟨9000000⟩, ⟨10000000⟩⟩ (by rw [hbeats]; rfl) (by rw [hbeats]; rfl)
  exact absurd hle (by decide)

end HostDialing

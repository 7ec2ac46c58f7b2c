import Framecast.Proofs.Engine.Figures
import Framecast.Proofs.Session.Moments

/-!
# Sessions that start afresh

Engines of two runs resemble each other if they are in the same state, their launchers and capture
loops cannot be told apart, and, as far as it matters, neither can their counters (`Resembles`). A
step keeps that, and offers the same events on both sides (`step_alike`).

An engine at rest may have any past, and its counters, its flag and its last report are left over
from it. Starting a session replaces all of them, so from its first change of state on an engine
resembles a new one that starts the same session, and tells the same in all that follows
(`session_afresh`). All that a launcher of sessions keeps of the past is how many it launched
(`Chronicle.launcher_eq`).
-/

namespace Framecast.Engine

open Journaled

variable {ℓ σ π : Type} [FrameSource σ] [Pipeline π] [Launcher ℓ σ π] {t₁ t₂ : Instant}

/-- Engines that cannot be told apart by what they do, their counters included if these are said to
count. -/
structure Resembles (K : Likeness ℓ σ π t₁ t₂) (counts : Prop) (a b : Engine ℓ σ π) : Prop where
  /-- Their launchers cannot be told apart. -/
  launcher : K.launchers a.launcher b.launcher
  /-- They are in the same state. -/
  state : a.state = b.state
  /-- They hold capture loops that cannot be told apart, or none. -/
  capture : Option.Rel (CaptureLoop.Alike K) a.capture b.capture
  /-- The loops have both been told to stop, or neither has. -/
  told : a.capture.isSome = true → a.shouldStop = b.shouldStop
  /-- Their counters are alike, and they reported at the same time. -/
  counters : counts →
    a.metrics.Alike t₁ t₂ b.metrics ∧ Instant.Shifted t₁ t₂ a.lastStats b.lastStats

/-- Between two steps, counters count if the engine is live. -/
def Twins (K : Likeness ℓ σ π t₁ t₂) (a b : Engine ℓ σ π) : Prop :=
  a.Resembles K (a.state.isLive = true) b

/-- An operation answers the same, and leaves engines that cannot be told apart. -/
def Answered {α : Type} (K : Likeness ℓ σ π t₁ t₂) (x y : α × Engine ℓ σ π) : Prop :=
  x.1 = y.1 ∧ x.2.Twins K y.2

variable {K : Likeness ℓ σ π t₁ t₂} {counts : Prop} {a b : Engine ℓ σ π} {s t : Instant}

/-- What waits for the application makes no difference. -/
theorem Resembles.outbox (h : a.Resembles K counts b) (o o' : Outbox) :
    Resembles K counts { a with outbox := o } { b with outbox := o' } := { h with }

/-- Whether the capture loops were told to stop does not matter once they are let go of. -/
theorem Resembles.released (h : a.Resembles K counts b) :
    Resembles K counts { a with capture := none } { b with capture := none } :=
  { h with capture := .none, told := fun held => absurd held (by simp) }

/-- Either both engines hold a capture loop, or neither does. -/
theorem Resembles.capture_cases (h : a.Resembles K counts b) :
    (a.capture = none ∧ b.capture = none) ∨
      ∃ x y, a.capture = some x ∧ b.capture = some y ∧ CaptureLoop.Alike K x y := by
  have hcapture := h.capture
  generalize a.capture = c, b.capture = c' at hcapture ⊢
  cases hcapture with
  | none => exact .inl ⟨rfl, rfl⟩
  | some hl => exact .inr ⟨_, _, rfl, rfl, hl⟩

/-- If the counters count, they may as well not count. -/
theorem Resembles.weaken (h : a.Resembles K True b) : a.Resembles K counts b :=
  { h with counters := fun _ => h.counters trivial }

/-- Of engines that are not live the counters do not count. -/
theorem Resembles.unlive (h : a.Resembles K counts b) (unlive : a.state.isLive = false) :
    a.Twins K b :=
  { h with counters := fun live => by simp [unlive] at live }

/-- Of live engines the counters count. -/
theorem Twins.counted (h : a.Twins K b) (live : a.state.isLive = true) : a.Resembles K True b :=
  { h with counters := fun _ => h.counters live }

/-- Whether the counters count does not change in the same state. -/
theorem Resembles.twins {a' : Engine ℓ σ π} (h : a'.Resembles K (a.state.isLive = true) b)
    (same : a'.state = a.state) : a'.Twins K b := by
  rw [← same] at h
  exact h

/-! ## Telling the application -/

/-- Engines that resemble each other offer an event alike. -/
theorem offer_alike (h : a.Resembles K counts b) (event : Event) :
    (a.offer event).Alike (Resembles K counts) (b.offer event) := by
  obtain ⟨o, ho⟩ := a.value_offer event
  obtain ⟨o', ho'⟩ := b.value_offer event
  exact ⟨by simp, by rw [ho, ho']; exact h.outbox o o'⟩

/-- Engines that resemble each other offer events alike. -/
theorem offerAll_alike (h : a.Resembles K counts b) (events : List Event) :
    (a.offerAll events).Alike (Resembles K counts) (b.offerAll events) := by
  obtain ⟨o, ho⟩ := a.value_offerAll events
  obtain ⟨o', ho'⟩ := b.value_offerAll events
  exact ⟨by simp, by rw [ho, ho']; exact h.outbox o o'⟩

/-- Between two steps, an event is offered alike. -/
theorem offer_twins (h : a.Twins K b) (event : Event) :
    (a.offer event).Alike (Twins K) (b.offer event) := by
  obtain ⟨hevents, hvalue⟩ := offer_alike h event
  exact ⟨hevents, hvalue.twins (a.state_offer event)⟩

/-- Between two steps, events are offered alike. -/
theorem offerAll_twins (h : a.Twins K b) (events : List Event) :
    (a.offerAll events).Alike (Twins K) (b.offerAll events) := by
  obtain ⟨hevents, hvalue⟩ := offerAll_alike h events
  exact ⟨hevents, hvalue.twins (a.state_offerAll events)⟩

/-- Engines that resemble each other enter a state alike. -/
theorem enter_alike (h : a.Resembles K counts b) (state : SessionState) :
    (a.enter state).Alike (Resembles K counts) (b.enter state) := by
  obtain ⟨o, ho⟩ := a.value_enter state
  obtain ⟨o', ho'⟩ := b.value_enter state
  refine ⟨by simp [h.state], ?_⟩
  rw [ho, ho']
  exact { h with state := rfl }

/-- Engines that resemble each other fail alike. -/
theorem fail_alike (h : a.Resembles K counts b) (message : String) (recoverable : Bool) :
    (a.fail message recoverable).Alike (Resembles K counts) (b.fail message recoverable) :=
  (enter_alike h _).bind fun _ _ h => offer_alike h _

/-- Engines that resemble each other follow the same announcements alike. -/
theorem follow_alike {α : Type} {state? : Happening → Option SessionState} (heeds : Heeds state?)
    (h : a.Resembles K counts b) {x y : Journaled α} (same : x.tidings = y.tidings) :
    (a.follow state? x.entries).Alike (Resembles K counts) (b.follow state? y.entries) := by
  obtain ⟨o, ho⟩ := value_follow heeds a x
  obtain ⟨o', ho'⟩ := value_follow heeds b y
  refine ⟨?_, ?_⟩
  · rw [events_follow heeds, events_follow heeds, h.state, same]
  · rw [ho, ho', same, h.state]
    exact { h with state := rfl }

/-! ## Starting a session -/

/-- Engines that resemble each other launch a session alike. -/
theorem launch_alike (h : a.Resembles K counts b) (config : SessionConfig)
    (hst : Instant.Shifted t₁ t₂ s t) :
    (a.launch config s).Alike
      (fun x y => LaunchedAlike K.sources K.pipelines x.1 y.1 ∧ x.2.Resembles K counts y.2)
      (b.launch config t) := by
  obtain ⟨htidings, hlaunched, hlauncher⟩ := K.launch h.launcher config hst
  refine .after rfl rfl ((follow_alike heeds_startingState h htidings).bind fun _ _ h => ?_)
  exact .pure ⟨hlaunched, { h with launcher := hlauncher }⟩

/-- Engines that resemble each other go live alike, and from then on their counters count. -/
theorem goLive_alike (h : a.Resembles K counts b) (config : SessionConfig) {x y : Launched σ π}
    (source : K.sources x.source y.source) (pipeline : K.pipelines x.pipeline y.pipeline)
    (hst : Instant.Shifted t₁ t₂ s t) :
    (a.goLive config x s).Alike (Resembles K True) (b.goLive config y t) := by
  let rate := Rate.ofFloat32 config.fps.toUInt64.toFloat32
  have hcounted : Resembles K True
      { a with metrics := (Metrics.new rate s).start s, lastStats := s }
      { b with metrics := (Metrics.new rate t).start t, lastStats := t } :=
    { h with counters := fun _ => ⟨Metrics.alike_start hst rate, hst⟩ }
  let interval := Duration.ofNanos (1000000000 / config.fps.toNat)
  have hbegin : (CaptureLoop.launch x interval s).Alike (CaptureLoop.Alike K)
      (CaptureLoop.launch y interval t) :=
    .after rfl rfl (.pure ⟨source, pipeline, rfl, hst, rfl, rfl⟩)
  refine (enter_alike hcounted _).bind fun _ _ h => hbegin.elsewhere.bind fun _ _ hl => ?_
  exact .after rfl rfl (.pure { h with capture := .some hl, told := fun _ => rfl })

/-- What starting a session does once the first phase has been entered. -/
def startUp (e : Engine ℓ σ π) (config : SessionConfig) (now : Instant) :
    Journaled (Engine ℓ σ π) := do
  let (r, e) ← e.launch config now
  match r with
  | .ok launched => e.goLive config launched now
  | .error x => do
    say .error .engine "Session start failed" [⟨"err", .plain x.message⟩]
    e.fail x.message (match x with
      | .config _ => true
      | _ => false)

/-- Engines that resemble each other are in the error state alike once they have failed. -/
theorem fail_twins (h : a.Resembles K counts b) (message : String) (recoverable : Bool) :
    (a.fail message recoverable).Alike (Twins K) (b.fail message recoverable) := by
  obtain ⟨hevents, hvalue⟩ := fail_alike h message recoverable
  refine ⟨hevents, hvalue.unlive ?_⟩
  rw [state_fail]
  rfl

/-- Engines that resemble each other start up alike. -/
theorem startUp_alike (h : a.Resembles K counts b) (config : SessionConfig)
    (hst : Instant.Shifted t₁ t₂ s t) :
    (a.startUp config s).Alike (Twins K) (b.startUp config t) := by
  refine (launch_alike h config hst).bind ?_
  rintro ⟨r, a⟩ ⟨r', b⟩ ⟨hlaunched, h⟩
  cases hlaunched with
  | failed x => exact .after rfl rfl (fail_twins h _ _)
  | launched source pipeline =>
    exact (goLive_alike h config source pipeline hst).mono fun _ _ h => h.weaken

omit [FrameSource σ] [Pipeline π] in
/-- A session is started by entering the first phase and starting up, if there is none and the
configuration can be used. -/
theorem startSession_eq (e : Engine ℓ σ π) (config : SessionConfig) (now : Instant) :
    e.startSession config now = Journaled.within ⟨"start_session", []⟩
      (if e.isBusy then do
        say .debug .engine "Session already running, ignoring start command" []
        return e
      else
        match config.validate with
        | .error x => do
          say .warn .engine "Rejected session configuration" [⟨"err", .plain x.message⟩]
          e.offer (.error true x.message)
        | .ok () => do
          say .info .engine "Starting session"
            [⟨"url", .plain config.outputUrl⟩, ⟨"codec", .quoted config.codec.name⟩,
              ⟨"tier", .quoted config.quality.name⟩, ⟨"fps", .nat config.fps.toNat⟩]
          let e ← e.enter (.starting .acquireDevice)
          e.startUp config now) :=
  rfl

/-- Engines that resemble each other start a session alike. -/
theorem startSession_alike (h : a.Twins K b) (config : SessionConfig)
    (hst : Instant.Shifted t₁ t₂ s t) :
    (a.startSession config s).Alike (Twins K) (b.startSession config t) := by
  have hbusy : a.isBusy = b.isBusy := by rw [isBusy, isBusy, h.state]
  rw [startSession_eq, startSession_eq, hbusy]
  refine Alike.within ?_ _ _
  split
  · exact .after rfl rfl (.pure h)
  · rcases config.validate with x | u
    · exact .after rfl rfl (offer_twins h _)
    · exact .after rfl rfl ((enter_alike h _).bind fun _ _ h => startUp_alike h config hst)

/-! ## Ending a session -/

variable {x y : CaptureLoop σ π}

/-- Engines that resemble each other wait for their capture loops alike. -/
theorem join_alike (h : a.Resembles K True b) (hl : x.Alike K y)
    (hst : Instant.Shifted t₁ t₂ s t) :
    (a.join x s).Alike (fun p q => p.1.Alike K q.1 ∧ p.2.Resembles K True q.2) (b.join y t) := by
  obtain ⟨hmetrics, hstats⟩ := h.counters trivial
  refine (CaptureLoop.turn_alike hl hmetrics true hst).elsewhere.bind ?_
  rintro ⟨x, m⟩ ⟨y, n⟩ ⟨hl, hmetrics⟩
  exact .pure ⟨hl, { h.released with counters := fun _ => ⟨hmetrics, hstats⟩ }⟩

/-- Engines that resemble each other enter the state at the end of a session alike. -/
theorem conclude_alike (h : a.Resembles K True b) (reason : StopReason)
    (result : Except SessionError SessionSummary) :
    (a.conclude reason result).Alike (Twins K) (b.conclude reason result) := by
  obtain ⟨o, ho⟩ := a.value_conclude reason result
  obtain ⟨o', ho'⟩ := b.value_conclude reason result
  refine ⟨by simp [h.state], ?_⟩
  rw [ho, ho']
  exact Resembles.weaken { h with state := rfl }

/-- Engines that resemble each other take a session down alike. -/
theorem takeDown_alike (h : a.Resembles K True b) (hl : x.Alike K y) (reason : StopReason)
    (hst : Instant.Shifted t₁ t₂ s t) :
    (a.takeDown x reason s).Alike (Answered K) (b.takeDown y reason t) := by
  obtain ⟨htidings, hfinished⟩ := K.finish hl.pipeline hst
  simp only [takeDown, hfinished]
  refine (enter_alike h _).bind fun _ _ h => ?_
  refine .after (events_stopSource _) (events_stopSource _) (.after rfl rfl (.after rfl rfl ?_))
  refine (follow_alike (heeds_stoppingState reason) h htidings).bind fun a b h => .after rfl rfl ?_
  rcases (Pipeline.finish y.pipeline t).value with o | result
  · exact .pure ⟨rfl, h.weaken⟩
  · obtain ⟨hmetrics, hstats⟩ := h.counters trivial
    simp only [hmetrics.snapshot_eq hst]
    rcases b.metrics.snapshot t with o | figures
    · exact .pure ⟨rfl, h.weaken⟩
    · refine (offer_alike h _).bind fun a b h => ?_
      obtain ⟨hmetrics, hstats⟩ := h.counters trivial
      have hstopped : Resembles K True { a with metrics := a.metrics.stop }
          { b with metrics := b.metrics.stop } :=
        { h with counters := fun _ => ⟨hmetrics.stop, hstats⟩ }
      exact (conclude_alike hstopped reason result).bind fun _ _ h => .pure ⟨rfl, h⟩

/-- Engines that resemble each other end a session alike. -/
theorem endSession_alike (h : a.Resembles K True b) (hst : Instant.Shifted t₁ t₂ s t) :
    (a.endSession s).Alike (Answered K) (b.endSession t) := by
  have htold : Resembles K True { a with shouldStop := true } { b with shouldStop := true } :=
    { h with told := fun _ => rfl }
  obtain ⟨ha, hb⟩ | ⟨x, y, ha, hb, hl⟩ := h.capture_cases
  · simp only [endSession, ha, hb]
    exact .pure ⟨rfl, htold.released.weaken⟩
  · simp only [endSession, ha, hb]
    refine (join_alike htold hl hst).bind ?_
    rintro ⟨x, a⟩ ⟨y, b⟩ ⟨hl, h⟩
    obtain ⟨hmetrics, hstats⟩ := h.counters trivial
    have hstopped : Resembles K True { a with metrics := a.metrics.stop }
        { b with metrics := b.metrics.stop } :=
      { h with counters := fun _ => ⟨hmetrics.stop, hstats⟩ }
    have hended : x.ended = y.ended := hl.ended
    dsimp only
    rw [hended]
    -- Only a loop that has returned leaves a session to take down.
    rcases y.ended with _ | reason | _
    · exact .after rfl rfl ((fail_twins hstopped _ _).bind fun _ _ h => .pure ⟨rfl, h⟩)
    · exact takeDown_alike h hl reason hst
    · exact .after rfl rfl ((fail_twins hstopped _ _).bind fun _ _ h => .pure ⟨rfl, h⟩)

/-- Engines that resemble each other are stopped on command alike. -/
theorem stopSession_alike (h : a.Twins K b) (hst : Instant.Shifted t₁ t₂ s t) :
    (a.stopSession s).Alike (Answered K) (b.stopSession t) := by
  unfold stopSession
  refine Alike.within ?_ _ _
  rw [← h.state]
  split
  · obtain ⟨hevents, hvalue⟩ := enter_alike h .idle
    have htwins : (a.enter .idle).Alike (Twins K) (b.enter .idle) :=
      ⟨hevents, hvalue.unlive (by rw [state_enter]; rfl)⟩
    exact htwins.bind fun _ _ h => .pure ⟨rfl, h⟩
  · split
    · exact .after rfl rfl (.pure ⟨rfl, h⟩)
    · rename_i hlive
      exact .after rfl rfl (endSession_alike (h.counted (by simpa using hlive)) hst)

/-! ## Looking after the session -/

/-- Engines that resemble each other notice alike that the loop of a session has ended. -/
theorem noticeEnd_alike (h : a.Twins K b) (settled : a.Settled) (hst : Instant.Shifted t₁ t₂ s t) :
    (a.noticeEnd s).Alike (Answered K) (b.noticeEnd t) := by
  obtain ⟨ha, hb⟩ | ⟨x, y, ha, hb, hl⟩ := h.capture_cases
  · simp only [noticeEnd, ha, hb, Option.any_none]
    exact .pure ⟨rfl, h⟩
  · have hlive : a.state.isLive = true := by
      rw [← settled.held, ha]
      rfl
    simp only [noticeEnd, ha, hb, Option.any_some, hl.ended]
    split
    · exact endSession_alike (h.counted hlive) hst
    · exact .pure ⟨rfl, h⟩

/-- Engines that resemble each other publish their figures alike. -/
theorem emitStats_alike (h : a.Resembles K True b) (hst : Instant.Shifted t₁ t₂ s t) :
    (a.emitStats s).Alike (Answered K) (b.emitStats t) := by
  obtain ⟨hmetrics, -⟩ := h.counters trivial
  simp only [emitStats, hmetrics.snapshot_eq hst]
  rcases b.metrics.snapshot t with o | figures
  · exact .pure ⟨rfl, h.weaken⟩
  · obtain ⟨hwarnings, hchecked⟩ := hmetrics.checkWarnings hst figures
    simp only [hwarnings]
    have hwarned : Resembles K True { a with metrics := (a.metrics.checkWarnings figures s).2 }
        { b with metrics := (b.metrics.checkWarnings figures t).2 } :=
      { h with counters := fun _ => ⟨hchecked, (h.counters trivial).2⟩ }
    refine (offerAll_alike hwarned _).bind fun _ _ h => (offer_alike h _).bind fun _ _ h => ?_
    exact .pure ⟨rfl, Resembles.weaken { h with
      counters := fun _ => ⟨(h.counters trivial).1.markReported hst, hst⟩ }⟩

/-- Engines that resemble each other look after their sessions alike. -/
theorem idle_alike (h : a.Twins K b) (settled : a.Settled) (hst : Instant.Shifted t₁ t₂ s t) :
    (a.idle s).Alike (Answered K) (b.idle t) := by
  refine (noticeEnd_alike h settled hst).bind ?_
  rintro ⟨r, a⟩ ⟨r', b⟩ ⟨rfl, h⟩
  rcases r with o | u
  · exact .pure ⟨rfl, h⟩
  · have hstate : b.state = a.state := h.state.symm
    dsimp only
    rw [hstate]
    cases hlive : a.state.isLive with
    | true =>
      rw [hst.since_eq ((h.counted hlive).counters trivial).2]
      split
      · exact emitStats_alike (h.counted hlive) hst
      · exact .pure ⟨rfl, h⟩
    | false => exact .pure ⟨rfl, h⟩

/-! ## Steps -/

/-- Engines that resemble each other go down alike. -/
theorem goDown_alike (h : a.Twins K b) (r : Except Overflow Unit) (last : List Event) :
    (goDown r a last).Alike (Answered K) (goDown r b last) := by
  rcases r with o | u
  · exact .pure ⟨rfl, h⟩
  · exact (offerAll_twins h last).bind fun _ _ h => .after rfl rfl (.pure ⟨rfl, h⟩)

/-- Engines that resemble each other go on alike. -/
theorem Answered.goOn {p q : Except Overflow Unit × Engine ℓ σ π} (h : Answered K p q) :
    Answered K (Engine.goOn p) (Engine.goOn q) := by
  obtain ⟨r, a⟩ := p
  obtain ⟨r', b⟩ := q
  obtain ⟨hr, htwins⟩ := h
  obtain rfl : r = r' := hr
  rcases r with o | u <;> exact ⟨rfl, htwins⟩

/-- Engines that resemble each other take a step alike. -/
theorem step_alike (h : a.Twins K b) (settled : a.Settled) (st : Step)
    (hst : Instant.Shifted t₁ t₂ s t) :
    (a.step st s).Alike (Answered K) (b.step st t) := by
  have hdown : ∀ last, (a.stopSession s >>= fun x => goDown x.1 x.2 last).Alike (Answered K)
      (b.stopSession t >>= fun x => goDown x.1 x.2 last) := by
    refine fun last => (stopSession_alike h hst).bind ?_
    rintro ⟨r, a⟩ ⟨r', b⟩ ⟨rfl, h⟩
    exact goDown_alike h r last
  cases st with
  | command c =>
    refine Alike.within (.after rfl rfl ?_) _ _
    cases c with
    | start config => exact (startSession_alike h config hst).bind fun _ _ h => .pure ⟨rfl, h⟩
    | stop => exact (stopSession_alike h hst).bind fun _ _ h => .pure h.goOn
    | getState =>
      simp only [sendState, h.state]
      exact (offer_twins h _).bind fun _ _ h => .pure ⟨rfl, h⟩
    | shutdown => exact hdown _
  | timeout => exact Alike.within ((idle_alike h settled hst).bind fun _ _ h => .pure h.goOn) _ _
  | disconnected => exact Alike.within (.after rfl rfl (hdown _)) _ _
  | turn =>
    obtain ⟨ha, hb⟩ | ⟨x, y, ha, hb, hl⟩ := h.capture_cases
    · simp only [step, ha, hb]
      exact .pure ⟨rfl, h⟩
    · have hheld : a.capture.isSome = true := by rw [ha]; rfl
      -- The counters of the two agree while a session is live, and a loop is only held then.
      have hcounted := h.counted (settled.held.symm.trans hheld)
      obtain ⟨hmetrics, hstats⟩ := hcounted.counters trivial
      simp only [step, ha, hb, h.told hheld]
      refine (CaptureLoop.turn_alike hl hmetrics b.shouldStop hst).bind ?_
      rintro ⟨x, m⟩ ⟨y, n⟩ ⟨hl, hmetrics⟩
      exact .pure ⟨rfl, Resembles.weaken { hcounted with
        capture := .some hl, told := fun _ => rfl, counters := fun _ => ⟨hmetrics, hstats⟩ }⟩

/-- Steps at the moments that lie so many nanoseconds after a first one. -/
def timed (t : Instant) (steps : List (Step × Nat)) : List (Step × Instant) :=
  steps.map fun x => (x.1, ⟨t.nanos + x.2⟩)

/-- Engines that resemble each other run alike, step for step at corresponding moments. -/
theorem run_alike (h : a.Twins K b) (settled : a.Settled) (steps : List (Step × Nat)) :
    (a.run (timed t₁ steps)).Alike (Answered K) (b.run (timed t₂ steps)) := by
  induction steps generalizing a b with
  | nil => exact .pure ⟨rfl, h⟩
  | cons x rest ih =>
    obtain ⟨st, n⟩ := x
    have hshifted : Instant.Shifted t₁ t₂ ⟨t₁.nanos + n⟩ ⟨t₂.nanos + n⟩ := by
      unfold Instant.Shifted
      dsimp only
      omega
    obtain ⟨hevents, hanswered⟩ := step_alike h settled st hshifted
    have hsound := step_sound settled st ⟨t₁.nanos + n⟩
    have hstep : (a.step st ⟨t₁.nanos + n⟩).Alike (fun x y => Answered K x y ∧ Sound x)
        (b.step st ⟨t₂.nanos + n⟩) := ⟨hevents, hanswered, hsound⟩
    refine hstep.bind ?_
    rintro ⟨v, a⟩ ⟨v', b⟩ ⟨⟨rfl, h⟩, hsound⟩
    cases v with
    | waiting => exact ih h hsound
    | ended => exact .pure ⟨rfl, h⟩
    | failed o => exact .pure ⟨rfl, h⟩

/-! ## What the past leaves -/

/-- All that an engine changes about the launcher of its sessions is the number of launches. -/
theorem Chronicle.launcher_eq {ε κ σ : Type} [Encoder ε] [Container κ] [FrameSource σ]
    {launcher l : SessionLauncher ε κ σ} {past : List Occasion}
    {chapters : List (List Call × Fate)} (h : Chronicle launcher past chapters l) :
    ∃ n, l = { launcher with launches := n } := by
  have hlaunch : ∀ {l l' : SessionLauncher ε κ σ} {config now r},
      (∃ n, l = { launcher with launches := n }) → (l.launch config now).value = (r, l') →
        ∃ n, l' = { launcher with launches := n } := by
    rintro _ l' config now r ⟨n, rfl⟩ answer
    have hcounted := SessionLauncher.launcher_launch { launcher with launches := n } config now
    rw [answer] at hcounted
    exact ⟨n + 1, hcounted⟩
  induction h with
  | none => exact ⟨_, rfl⟩
  | rested _ _ ih => exact ih
  | failed _ _ answer ih => exact hlaunch ih answer
  | served _ _ answer _ ih => exact hlaunch ih answer

/-! ## Starting afresh -/

/-- An engine that is about to start a session resembles any other one that is, once both have
entered the first phase, if their launchers cannot be told apart. -/
theorem resembles_of_free (ha : a.capture = none) (hb : b.capture = none)
    (launcher : K.launchers a.launcher b.launcher) :
    (a.enter (.starting .acquireDevice)).value.Resembles K False
      (b.enter (.starting .acquireDevice)).value := by
  obtain ⟨o, ho⟩ := a.value_enter (.starting .acquireDevice)
  obtain ⟨o', ho'⟩ := b.value_enter (.starting .acquireDevice)
  rw [ho, ho']
  refine ⟨launcher, rfl, ?_, ?_, False.elim⟩
  · simp only [ha, hb]
    exact .none
  · simp [ha]

/-- A session is started by telling of the first phase, and then all is as `startUp` has it. -/
theorem run_start (free : a.isBusy = false) {config : SessionConfig}
    (valid : config.validate = .ok ()) (now : Instant) (steps : List (Step × Instant)) :
    let started := (a.enter (.starting .acquireDevice)).value.startUp config now
    (a.run ((.command (.start config), now) :: steps)).events =
        .stateChanged a.state (.starting .acquireDevice) ::
          (started.events ++ (started.value.run steps).events) ∧
      (a.run ((.command (.start config), now) :: steps)).value = (started.value.run steps).value ∧
      (a.startSession config now).value = started.value := by
  intro started
  have hstart : (a.startSession config now).events =
        .stateChanged a.state (.starting .acquireDevice) :: started.events ∧
      (a.startSession config now).value = started.value := by
    rw [startSession_eq, free, valid]
    exact ⟨by simp [started], rfl⟩
  refine ⟨?_, ?_, hstart.2⟩
  · simp [run, step, handle, hstart]
  · simp [run, step, handle, hstart]

/-- Nothing of what an engine has been through shows in its next session: an engine that is at rest
after any history, and then starts a session, offers the same events as a new one that starts it,
but for the previous state in the first of them. From then on the launchers and what they launch
answer the same, and the same happens equally long after the start, but the clocks need not agree.
In the end both have gone the same way, and are in the same state. -/
theorem session_afresh (K : Likeness ℓ σ π t₁ t₂) (launcher : ℓ) (outbox : Outbox)
    (start : Instant) {history : List (Step × Instant)} {e : Engine ℓ σ π}
    (ran : ((new launcher outbox start).boot.value.run history).value = (.waiting, e))
    (rests : e.state.isIdle = true ∨ e.state.isError = true) {fresh : ℓ}
    (alike : K.launchers e.launcher fresh) (outbox' : Outbox) (start' : Instant)
    {config : SessionConfig} (valid : config.validate = .ok ()) (steps : List (Step × Nat)) :
    let again := e.run ((.command (.start config), t₁) :: timed t₁ steps)
    let first := (new fresh outbox' start').boot.value.run
      ((.command (.start config), t₂) :: timed t₂ steps)
    ∃ rest, again.events = .stateChanged e.state (.starting .acquireDevice) :: rest ∧
      first.events = .stateChanged .idle (.starting .acquireDevice) :: rest ∧
      again.value.1 = first.value.1 ∧ again.value.2.state = first.value.2.state := by
  intro again first
  have hsettled : e.Settled := by
    have h := run_sound (boot_settled (σ := σ) (π := π) launcher outbox start) history
    rw [ran] at h
    exact h
  have hunlive : e.state.isLive = false := by
    cases hs : e.state with
    | live config figures => simp [hs, SessionState.isIdle, SessionState.isError] at rests
    | _ => rfl
  obtain ⟨o, ho⟩ := value_boot (new fresh outbox' start' : Engine ℓ σ π)
  have hnew : (new fresh outbox' start' : Engine ℓ σ π).boot.value.Settled :=
    boot_settled fresh outbox' start'
  have hstate : (new fresh outbox' start' : Engine ℓ σ π).boot.value.state = .idle := by
    rw [ho]
    rfl
  have hresembles := resembles_of_free (hsettled.capture_eq_none hunlive)
    (hnew.capture_eq_none (by rw [hstate]; rfl)) (K := K) (by rw [ho]; exact alike)
  obtain ⟨hagain, hagain', hstarted⟩ :=
    run_start (hsettled.isBusy_eq.trans hunlive) valid t₁ (timed t₁ steps)
  obtain ⟨hfirst, hfirst', -⟩ :=
    run_start (hnew.isBusy_eq.trans (by rw [hstate]; rfl)) valid t₂ (timed t₂ steps)
  -- Both start up alike from their first phase on, and then run alike.
  obtain ⟨hevents, htwins⟩ := startUp_alike hresembles config (Nat.add_comm t₁.nanos t₂.nanos)
  have hsettled' := startSession_settled hsettled config t₁
  rw [hstarted] at hsettled'
  obtain ⟨hrest, hverdict, hend⟩ := run_alike htwins hsettled' steps
  refine ⟨_, hagain, ?_, ?_, ?_⟩
  · rw [hfirst, hstate, hevents, hrest]
  · rw [hagain', hfirst']
    exact hverdict
  · rw [hagain', hfirst']
    exact hend.state

/-- An engine whose session was stopped starts another one, which goes the same way as the first one
of a new engine does later. The launcher has one launch behind it, and the sessions remember when
they were started, but neither can be told. -/
theorem session_afresh_sample :
    let ran := (new sampleLauncher {} ⟨0⟩).boot.value.run
      [(.command (.start {}), ⟨0⟩), (.turn, ⟨0⟩), (.command .stop, ⟨100000000⟩)]
    let steps := [(Step.turn, 0), (Step.timeout, 100000000)]
    let again := ran.value.2.run
      ((.command (.start {}), ⟨200000000⟩) :: timed ⟨200000000⟩ steps)
    let first := (new sampleLauncher {} ⟨0⟩).boot.value.run
      ((.command (.start {}), ⟨900000000⟩) :: timed ⟨900000000⟩ steps)
    ran.value.2.launcher.launches = 1 ∧
      ∃ rest, again.events = .stateChanged .idle (.starting .acquireDevice) :: rest ∧
        first.events = .stateChanged .idle (.starting .acquireDevice) :: rest := by
  intro ran steps again first
  have hstate : ran.value.2.state = .idle := by decide +kernel
  have hwaiting : ran.value.1 = .waiting := by decide +kernel
  have hran : ran.value = (.waiting, ran.value.2) := Prod.ext hwaiting rfl
  have hlaunches : ran.value.2.launcher.launches = 1 := by decide +kernel
  have hfree : ran.value.2.capture.isNone = true := by decide +kernel
  have hagree : ran.value.2.launcher.Agree sampleLauncher := by
    obtain ⟨chapters, told⟩ := (run_serves sampleLauncher {} ⟨0⟩ _).told
      (Option.isNone_iff_eq_none.mp hfree)
    obtain ⟨n, hn⟩ := told.launcher_eq
    rw [hn]
    exact SessionLauncher.agree_of_steady (fun _ _ => rfl) (fun _ _ => rfl) (fun _ _ => rfl)
      (fun _ _ => rfl) n
  have hvalid : SessionConfig.validate {} = .ok () := rfl
  obtain ⟨rest, hagain, hfirst, -, -⟩ := session_afresh
    (SessionLauncher.likeness ScriptedEncoder MemoryContainer ScriptedSource ⟨200000000⟩
      ⟨900000000⟩)
    sampleLauncher {} ⟨0⟩ hran (.inl (by rw [hstate]; rfl)) hagree {} ⟨0⟩ hvalid steps
  rw [hstate] at hagain
  exact ⟨hlaunches, rest, hagain, hfirst⟩

end Framecast.Engine

import Framecast.Engine.Run
import Framecast.Proofs.Engine.Told
import Framecast.Proofs.Engine.Turned

/-!
# What the engine does

A session is ended (`Ends`) or started (`Starts`), stopped on command (`Stops`), or looked after
(`Tends`); the engine is let go (`Drops`). A step of a running engine is one of these, an answer, or
a turn of the capture loop (`Acts`). Each relation lists the ways in which that can go, with the
calls that are made, the events that are offered, and the engine as it is left. Of an engine only
what waits for the application is left open. `step_acts` says that a step goes in no other way.
-/

namespace Framecast

open Journaled

/-! ## States -/

namespace SessionState

variable {s : SessionState}

/-- A state that is live is the live state of some session. -/
theorem eq_live (h : s.isLive = true) : ∃ config figures, s = .live config figures := by
  cases s with
  | live config figures => exact ⟨config, figures, rfl⟩
  | _ => cases h

/-- A state that is an error is the error state with some message. -/
theorem eq_error (h : s.isError = true) :
    ∃ message recoverable, s = .error message recoverable := by
  cases s with
  | error message recoverable => exact ⟨message, recoverable, rfl⟩
  | _ => cases h

end SessionState

/-! ## Joining the capture loop -/

namespace CaptureLoop

variable {σ π : Type}

/-- How a loop ends that is told to stop: as it has ended, or because it is told to. -/
def lastEnd (l : CaptureLoop σ π) : LoopEnd := l.ended.getD (.returned .userRequested)

/-- A loop that was told to stop, and has. -/
def joined (l : CaptureLoop σ π) : CaptureLoop σ π := { l with ended := some l.lastEnd }

variable [FrameSource σ] [Pipeline π]

/-- A loop that is told to stop ends and leaves the counters alone. -/
@[simp] theorem value_turn_told (l : CaptureLoop σ π) (m : Metrics) (now : Instant) :
    (l.turn m true now).value = (l.joined, m) := by
  cases he : l.ended with
  | none => simp [turn, he, finish, joined, lastEnd]
  | some ended =>
    simp only [turn, he, joined, lastEnd, Option.isSome_some, Option.getD_some, if_true, value_pure]
    rw [← he]

/-- A loop that is told to stop makes no call for it. -/
@[simp] theorem calls_turn_told (l : CaptureLoop σ π) (m : Metrics) (now : Instant) :
    (l.turn m true now).calls = [] := by
  cases he : l.ended <;> simp [turn, he]

/-- A loop that is told to stop tells nothing. -/
@[simp] theorem events_turn_told (l : CaptureLoop σ π) (m : Metrics) (now : Instant) :
    (l.turn m true now).events = [] := by
  cases he : l.ended <;> simp [turn, he, finish]

/-- The calls by which a session is taken down whose loop has returned. -/
def takeDownCalls (l : CaptureLoop σ π) (now : Instant) : List Call :=
  .stopSource (FrameSource.stop l.source).1 :: .release .source :: .finish ::
    (Pipeline.finish l.pipeline now).calls ++ [.release .pipeline]

/-- The calls by which a session is finished whose engine is let go. -/
def dropCalls (l : CaptureLoop σ π) (now : Instant) : List Call :=
  .stopSource (FrameSource.stop l.source).1 :: .finish ::
    (Pipeline.finish l.pipeline now).calls ++ [.release .pipeline, .release .source]

end CaptureLoop

namespace Engine

variable {ℓ σ π : Type} {e : Engine ℓ σ π}

/-! ## Starting a session -/

section Start

variable [Launcher ℓ σ π]

/-- The calls by which a session is launched. -/
def launchCalls (launcher : ℓ) (config : SessionConfig) (now : Instant) : List Call :=
  .launch config :: (Launcher.launch launcher config now).calls

/-- The events along the launch of a session, up to its last phase. -/
def launchEvents (e : Engine ℓ σ π) (config : SessionConfig) (now : Instant) : List Event :=
  .stateChanged e.state (.starting .acquireDevice) ::
    along startingState? (.starting .acquireDevice) (Launcher.launch e.launcher config now).tidings

/-- The state that the last phase of a launch leads to. -/
def launchPhase (launcher : ℓ) (config : SessionConfig) (now : Instant) : SessionState :=
  reached startingState? (.starting .acquireDevice) (Launcher.launch launcher config now).tidings

/-- A session that was launched, when its loop begins. -/
def begun (launched : Launched σ π) (config : SessionConfig) (now : Instant) : CaptureLoop σ π :=
  { source := launched.source
    pipeline := launched.pipeline
    interval := .ofNanos (1000000000 / config.fps.toNat)
    started := now
    lastStatus := now }

/-- The state of an engine whose launch failed. -/
def failedState : SessionError → SessionState
  | .config x => .error (SessionError.config x).message true
  | x => .error x.message false

/-- There is a session, or one is under way. -/
def isBusy (e : Engine ℓ σ π) : Bool :=
  e.state.isStarting || e.state.isLive || e.state.isStopping

/-- What starting a session does. -/
inductive Starts (e : Engine ℓ σ π) (config : SessionConfig) (now : Instant) :
    List Call → List Event → Engine ℓ σ π → Prop
  /-- There is a session already. -/
  | ignored (busy : e.isBusy = true) : Starts e config now [] [] e
  /-- The configuration cannot be used. -/
  | rejected {x : ConfigError} {o : Outbox} (free : e.isBusy = false)
      (invalid : config.validate = .error x) :
      Starts e config now [] [.error true x.message] { e with outbox := o }
  /-- The launch fails. -/
  | failed {x : SessionError} {launcher : ℓ} {o : Outbox} (free : e.isBusy = false)
      (valid : config.validate = .ok ())
      (launched : (Launcher.launch e.launcher config now).value = (.error x, launcher)) :
      Starts e config now (launchCalls e.launcher config now)
        (e.launchEvents config now ++
          entering (launchPhase e.launcher config now) (failedState x))
        { e with launcher, outbox := o, state := failedState x }
  /-- The session goes live. -/
  | launched {launched : Launched σ π} {launcher : ℓ} {o : Outbox} (free : e.isBusy = false)
      (valid : config.validate = .ok ())
      (answer : (Launcher.launch e.launcher config now).value = (.ok launched, launcher)) :
      Starts e config now (launchCalls e.launcher config now)
        (e.launchEvents config now ++
          [.stateChanged (launchPhase e.launcher config now) (.live config {})])
        { e with
          launcher
          outbox := o
          state := .live config {}
          metrics := (Metrics.new (.ofFloat32 config.fps.toUInt64.toFloat32) now).start now
          capture := some (begun launched config now)
          shouldStop := false
          lastStats := now }

/-- Starting a session goes one of these ways. -/
theorem startSession_starts (e : Engine ℓ σ π) (config : SessionConfig) (now : Instant) :
    e.Starts config now (e.startSession config now).calls (e.startSession config now).events
      (e.startSession config now).value := by
  cases hb : e.isBusy with
  | true =>
    have hb' := hb
    rw [isBusy] at hb'
    simpa [startSession, hb'] using Starts.ignored hb
  | false =>
    have hb' := hb
    rw [isBusy] at hb'
    rcases hv : config.validate with x | u
    · obtain ⟨o, ho⟩ := e.value_offer (.error true x.message)
      simpa [startSession, hb', hv, ho] using Starts.rejected (o := o) hb hv
    obtain ⟨o, ho⟩ := e.value_enter (.starting .acquireDevice)
    -- The announcements of the launch lead to its last phase.
    obtain ⟨o₁, ho₁⟩ := value_follow heeds_startingState
      { e with outbox := o, state := .starting .acquireDevice }
      (Launcher.launch e.launcher config now)
    have he₁ := events_follow heeds_startingState
      { e with outbox := o, state := .starting .acquireDevice }
      (Launcher.launch e.launcher config now)
    have hc₁ := calls_follow startingState?
      { e with outbox := o, state := .starting .acquireDevice }
      (Launcher.launch e.launcher config now)
    rcases hl : (Launcher.launch e.launcher config now).value with ⟨x | launched, launcher⟩
    · have hfail := { e with
        launcher, outbox := o₁, state := launchPhase e.launcher config now }.value_fail x.message
      simp only [launchPhase] at hfail
      have h := fun o => Starts.failed (o := o) hb hv hl
      -- The application can do something about a configuration, and about nothing else.
      cases x with
      | config x =>
        obtain ⟨o₂, ho₂⟩ := hfail true
        simpa [startSession, hb', hv, ho, ho₁, he₁, hc₁, hl, ho₂, launch, launchCalls,
          launchEvents, launchPhase, failedState] using h o₂
      | _ =>
        obtain ⟨o₂, ho₂⟩ := hfail false
        simpa [startSession, hb', hv, ho, ho₁, he₁, hc₁, hl, ho₂, launch, launchCalls,
          launchEvents, launchPhase, failedState] using h o₂
    · obtain ⟨o₂, ho₂⟩ := { e with
        launcher
        outbox := o₁
        state := launchPhase e.launcher config now
        metrics := (Metrics.new (.ofFloat32 config.fps.toUInt64.toFloat32) now).start now
        lastStats := now }.value_enter (.live config {})
      simp only [launchPhase] at ho₂
      have h := Starts.launched (o := o₂) hb hv hl
      simpa [startSession, hb', hv, ho, ho₁, he₁, hc₁, hl, ho₂, launch, goLive, CaptureLoop.launch,
        launchCalls, launchEvents, launchPhase, begun] using h

end Start

/-! ## Ending a session -/

/-- The state that the end of a session leads to. -/
def verdict (reason : StopReason) : Except SessionError SessionSummary → SessionState
  | .ok _ => if reason.isFailure then .error reason.message false else .idle
  | .error x => .error x.message false

/-- The state of an engine whose capture loop has broken down. -/
def brokenState : SessionState := .error "Capture loop panicked" false

/-- The end of a session leads to its state, and changes nothing else but what waits. -/
theorem value_conclude (e : Engine ℓ σ π) (reason : StopReason)
    (result : Except SessionError SessionSummary) :
    ∃ o, (e.conclude reason result).value =
      { e with outbox := o, state := verdict reason result } := by
  rcases result with x | summary
  · obtain ⟨o, ho⟩ := e.value_fail x.message false
    exact ⟨o, by simp [conclude, verdict, ho]⟩
  · cases hf : reason.isFailure with
    | true =>
      obtain ⟨o, ho⟩ := e.value_fail reason.message false
      exact ⟨o, by simp [conclude, verdict, hf, ho]⟩
    | false =>
      obtain ⟨o, ho⟩ := e.value_enter .idle
      exact ⟨o, by simp [conclude, verdict, hf, ho]⟩

/-- The end of a session is no call. -/
@[simp] theorem calls_conclude (e : Engine ℓ σ π) (reason : StopReason)
    (result : Except SessionError SessionSummary) : (e.conclude reason result).calls = [] := by
  rcases result with x | summary
  · simp [conclude]
  · cases hf : reason.isFailure <;> simp [conclude, hf]

/-- The end of a session tells of the state that it leads to. -/
@[simp] theorem events_conclude (e : Engine ℓ σ π) (reason : StopReason)
    (result : Except SessionError SessionSummary) :
    (e.conclude reason result).events = entering e.state (verdict reason result) := by
  rcases result with x | summary
  · simp [conclude, verdict]
  · cases hf : reason.isFailure <;> simp [conclude, verdict, hf, entering]

variable [FrameSource σ] [Pipeline π]

/-- Stopping a source is one call. -/
@[simp] theorem calls_stopSource (source : σ) :
    (stopSource source).calls = [.stopSource (FrameSource.stop source).1] := by
  unfold stopSource
  rcases FrameSource.stop source with ⟨_ | _, _⟩ <;> simp

/-- Stopping a source tells nothing. -/
@[simp] theorem events_stopSource (source : σ) : (stopSource source).events = [] := by
  unfold stopSource
  rcases FrameSource.stop source with ⟨_ | _, _⟩ <;> simp

/-- The events along the end of a session, up to its last phase. -/
def takeDownEvents (e : Engine ℓ σ π) (l : CaptureLoop σ π) (reason : StopReason) (now : Instant) :
    List Event :=
  .stateChanged e.state (.stopping reason .stopCapture) ::
    along (stoppingState? reason) (.stopping reason .stopCapture)
      (Pipeline.finish l.pipeline now).tidings

/-- The state that the last phase of a session leads to. -/
def lastPhase (l : CaptureLoop σ π) (reason : StopReason) (now : Instant) : SessionState :=
  reached (stoppingState? reason) (.stopping reason .stopCapture)
    (Pipeline.finish l.pipeline now).tidings

/-- What taking a session down does whose loop has returned. -/
inductive TakesDown (e : Engine ℓ σ π) (l : CaptureLoop σ π) (reason : StopReason)
    (now : Instant) : List Call → List Event → Except Overflow Unit × Engine ℓ σ π → Prop
  /-- Arithmetic overflows while the pipeline is finished. -/
  | overflowed {x : Overflow} {o : Outbox}
      (finished : (Pipeline.finish l.pipeline now).value = .error x) :
      TakesDown e l reason now (l.takeDownCalls now) (e.takeDownEvents l reason now)
        (.error x, { e with outbox := o, state := lastPhase l reason now })
  /-- The pipeline is finished, and the figures overflow. -/
  | unfigured {result : Except SessionError SessionSummary} {x : Overflow} {o : Outbox}
      (finished : (Pipeline.finish l.pipeline now).value = .ok result)
      (overflow : e.metrics.snapshot now = .error x) :
      TakesDown e l reason now (l.takeDownCalls now) (e.takeDownEvents l reason now)
        (.error x, { e with outbox := o, state := lastPhase l reason now })
  /-- The pipeline is finished, the figures are published, and the verdict is entered. -/
  | concluded {result : Except SessionError SessionSummary} {figures : SessionStats} {o : Outbox}
      (finished : (Pipeline.finish l.pipeline now).value = .ok result)
      (figured : e.metrics.snapshot now = .ok figures) :
      TakesDown e l reason now (l.takeDownCalls now)
        (e.takeDownEvents l reason now ++ .stats (finalStats figures result) ::
          entering (lastPhase l reason now) (verdict reason result))
        (.ok (), { e with
          outbox := o, state := verdict reason result, metrics := e.metrics.stop })

/-- Taking a session down goes one of these ways. -/
theorem takeDown_takesDown (e : Engine ℓ σ π) (l : CaptureLoop σ π) (reason : StopReason)
    (now : Instant) :
    e.TakesDown l reason now (e.takeDown l reason now).calls (e.takeDown l reason now).events
      (e.takeDown l reason now).value := by
  obtain ⟨o, ho⟩ := e.value_enter (.stopping reason .stopCapture)
  -- The announcements of the pipeline lead to the last phase.
  obtain ⟨o₁, ho₁⟩ := value_follow (heeds_stoppingState reason)
    { e with outbox := o, state := .stopping reason .stopCapture } (Pipeline.finish l.pipeline now)
  have he₁ := events_follow (heeds_stoppingState reason)
    { e with outbox := o, state := .stopping reason .stopCapture } (Pipeline.finish l.pipeline now)
  have hc₁ := calls_follow (stoppingState? reason)
    { e with outbox := o, state := .stopping reason .stopCapture } (Pipeline.finish l.pipeline now)
  rcases hf : (Pipeline.finish l.pipeline now).value with x | result
  · simpa [takeDown, ho, ho₁, he₁, hc₁, hf, CaptureLoop.takeDownCalls, takeDownEvents, lastPhase]
      using TakesDown.overflowed (e := e) hf
  rcases hs : e.metrics.snapshot now with x | figures
  · simpa [takeDown, ho, ho₁, he₁, hc₁, hf, hs, CaptureLoop.takeDownCalls, takeDownEvents,
      lastPhase] using TakesDown.unfigured (e := e) hf hs
  · obtain ⟨o₂, ho₂⟩ := { e with outbox := o₁, state := lastPhase l reason now }.value_offer
      (.stats (finalStats figures result))
    obtain ⟨o₃, ho₃⟩ := { e with
      outbox := o₂, state := lastPhase l reason now, metrics := e.metrics.stop }.value_conclude
      reason result
    simp only [lastPhase] at ho₂ ho₃
    simpa [takeDown, ho, ho₁, he₁, hc₁, hf, hs, ho₂, ho₃, CaptureLoop.takeDownCalls,
      takeDownEvents, lastPhase] using TakesDown.concluded (e := e) hf hs

/-- What ending a session does. -/
inductive Ends (e : Engine ℓ σ π) (now : Instant) :
    List Call → List Event → Except Overflow Unit × Engine ℓ σ π → Prop
  /-- There is no capture loop, and nothing to end. -/
  | free (capture : e.capture = none) : Ends e now [] [] (.ok (), { e with shouldStop := true })
  /-- The capture loop has broken down, which is an error. -/
  | lost {l : CaptureLoop σ π} {o : Outbox} (capture : e.capture = some l)
      (broken : l.lastEnd = .broken) :
      Ends e now [] (entering e.state brokenState)
        (.ok (), { e with
          capture := none
          shouldStop := true
          metrics := e.metrics.stop
          outbox := o
          state := brokenState })
  /-- The capture loop has returned, or does now, and the session is taken down. -/
  | returned {l : CaptureLoop σ π} {reason : StopReason} {calls : List Call}
      {events : List Event} {r : Except Overflow Unit × Engine ℓ σ π}
      (capture : e.capture = some l) (returned : l.lastEnd = .returned reason)
      (down : { e with capture := none, shouldStop := true }.TakesDown l.joined reason now calls
        events r) :
      Ends e now calls events r

/-- Ending a session goes one of these ways. -/
theorem endSession_ends (e : Engine ℓ σ π) (now : Instant) :
    e.Ends now (e.endSession now).calls (e.endSession now).events (e.endSession now).value := by
  cases hc : e.capture with
  | none => simpa [endSession, hc] using Ends.free hc
  | some l =>
    have hended : l.joined.ended = some l.lastEnd := rfl
    cases hl : l.lastEnd with
    | broken =>
      obtain ⟨o, ho⟩ := value_fail
        ({ e with capture := none, shouldStop := true, metrics := e.metrics.stop } : Engine ℓ σ π)
        "Capture loop panicked" false
      simpa [endSession, hc, join, hended, hl, ho, brokenState] using
        Ends.lost (o := o) hc hl
    | returned reason =>
      have h :=
        takeDown_takesDown { e with capture := none, shouldStop := true } l.joined reason now
      simpa [endSession, hc, join, hended, hl] using Ends.returned hc hl h

/-- What stopping on command does. -/
inductive Stops (e : Engine ℓ σ π) (now : Instant) :
    List Call → List Event → Except Overflow Unit × Engine ℓ σ π → Prop
  /-- The error state is left. -/
  | cleared {o : Outbox} (error : e.state.isError = true) :
      Stops e now [] [.stateChanged e.state .idle] (.ok (), { e with outbox := o, state := .idle })
  /-- There is no live session, and nothing to stop. -/
  | ignored (error : e.state.isError = false) (live : e.state.isLive = false) :
      Stops e now [] [] (.ok (), e)
  /-- The live session is ended. -/
  | ended {calls : List Call} {events : List Event} {r : Except Overflow Unit × Engine ℓ σ π}
      (live : e.state.isLive = true) (ends : e.Ends now calls events r) :
      Stops e now calls events r

/-- Stopping on command goes one of these ways. -/
theorem stopSession_stops (e : Engine ℓ σ π) (now : Instant) :
    e.Stops now (e.stopSession now).calls (e.stopSession now).events (e.stopSession now).value := by
  cases he : e.state.isError with
  | true =>
    obtain ⟨o, ho⟩ := e.value_enter .idle
    simpa [stopSession, he, ho] using Stops.cleared (e := e) (o := o) he
  | false =>
    cases hl : e.state.isLive with
    | false => simpa [stopSession, he, hl] using Stops.ignored he hl
    | true => simpa [stopSession, he, hl] using Stops.ended hl (e.endSession_ends now)

/-! ## Looking after the session -/

/-- The session has a capture loop that has ended. -/
def isOver (e : Engine ℓ σ π) : Bool := e.capture.any fun l => l.ended.isSome

/-- The session is live, and its figures are due. -/
def isDue (e : Engine ℓ σ π) (now : Instant) : Bool :=
  e.state.isLive && statsInterval.nanos ≤ (now.since e.lastStats).nanos

/-- What looking after the session does. -/
inductive Tends (e : Engine ℓ σ π) (now : Instant) :
    List Call → List Event → Except Overflow Unit × Engine ℓ σ π → Prop
  /-- The capture loop has ended, and so does the session. -/
  | noticed {calls : List Call} {events : List Event} {r : Except Overflow Unit × Engine ℓ σ π}
      (ended : e.isOver = true) (ends : e.Ends now calls events r) : Tends e now calls events r
  /-- There is nothing to do. -/
  | quiet (running : e.isOver = false) (due : e.isDue now = false) : Tends e now [] [] (.ok (), e)
  /-- Figures are due, and overflow. -/
  | unfigured {x : Overflow} (running : e.isOver = false) (due : e.isDue now = true)
      (overflow : e.metrics.snapshot now = .error x) : Tends e now [] [] (.error x, e)
  /-- Figures are due, and published with what they warn of. -/
  | reported {figures : SessionStats} {o : Outbox} (running : e.isOver = false)
      (due : e.isDue now = true) (figured : e.metrics.snapshot now = .ok figures) :
      Tends e now []
        ((e.metrics.checkWarnings figures now).1.map .warning ++ [.stats figures])
        (.ok (), { e with
          outbox := o
          metrics := (e.metrics.checkWarnings figures now).2.markReported now
          lastStats := now })

/-- At its end, a session is not live. -/
theorem isLive_verdict (reason : StopReason) (result : Except SessionError SessionSummary) :
    (verdict reason result).isLive = false := by
  rcases result with x | summary
  · rfl
  · cases hf : reason.isFailure <;> simp [verdict, hf, SessionState.isLive]

/-- A session that is ended is no longer live. -/
theorem Ends.isLive {now : Instant} {calls : List Call} {events : List Event}
    {e' : Engine ℓ σ π} (h : e.Ends now calls events (.ok (), e'))
    (held : e.capture.isSome = true) :
    e'.state.isLive = false := by
  cases h with
  | free capture =>
    rw [capture] at held
    cases held
  | lost => rfl
  | returned capture ended down =>
    cases down with
    | concluded => exact isLive_verdict _ _

/-- Publishing figures goes one of the last two ways. -/
theorem emitStats_tends {now : Instant} (running : e.isOver = false) (due : e.isDue now = true) :
    e.Tends now (e.emitStats now).calls (e.emitStats now).events (e.emitStats now).value := by
  rcases hs : e.metrics.snapshot now with x | figures
  · simpa [emitStats, hs] using Tends.unfigured running due hs
  · obtain ⟨o, ho⟩ := { e with metrics := (e.metrics.checkWarnings figures now).2 }.value_offerAll
      ((e.metrics.checkWarnings figures now).1.map .warning)
    obtain ⟨o', ho'⟩ := { e with
      outbox := o, metrics := (e.metrics.checkWarnings figures now).2 }.value_offer (.stats figures)
    simpa [emitStats, hs, ho, ho'] using Tends.reported (e := e) (o := o') running due hs

/-- Looking after the session goes one of these ways. -/
theorem idle_tends (e : Engine ℓ σ π) (now : Instant) :
    e.Tends now (e.idle now).calls (e.idle now).events (e.idle now).value := by
  cases ho : e.isOver with
  | true =>
    have hn : e.noticeEnd now = e.endSession now := if_pos ho
    have hends := e.endSession_ends now
    have hheld : e.capture.isSome = true := by
      cases hc : e.capture with
      | none => simp [isOver, hc] at ho
      | some l => rfl
    -- Once it has ended, the session is not live, and no figures are due.
    have hidle : (e.idle now).calls = (e.endSession now).calls ∧
        (e.idle now).events = (e.endSession now).events ∧
        (e.idle now).value = (e.endSession now).value := by
      rcases hv : (e.endSession now).value with ⟨x | u, e'⟩
      · simp [idle, hn, hv]
      · rw [hv] at hends
        simp [idle, hn, hv, hends.isLive hheld]
    rw [hidle.1, hidle.2.1, hidle.2.2]
    exact .noticed ho hends
  | false =>
    have hn : e.noticeEnd now = pure (.ok (), e) := if_neg (by rw [isOver] at ho; simp [ho])
    have hidle : e.idle now = if e.isDue now then e.emitStats now else pure (.ok (), e) := by
      simp only [idle, hn, pure_bind]
      rfl
    rw [hidle]
    cases hd : e.isDue now with
    | false => exact .quiet ho hd
    | true => exact emitStats_tends ho hd

/-! ## Letting go of the engine -/

/-- What letting go of an engine does. -/
inductive Drops (e : Engine ℓ σ π) (now : Instant) :
    List Call → List Event → Engine ℓ σ π → Prop
  /-- There is no capture loop. -/
  | free (capture : e.capture = none) : Drops e now [] [] { e with shouldStop := true }
  /-- The capture loop has broken down. -/
  | lost {l : CaptureLoop σ π} (capture : e.capture = some l) (broken : l.lastEnd = .broken) :
      Drops e now [] [] { e with capture := none, shouldStop := true }
  /-- The capture loop has returned, or does now, and the session is finished. -/
  | returned {l : CaptureLoop σ π} {reason : StopReason} (capture : e.capture = some l)
      (returned : l.lastEnd = .returned reason) :
      Drops e now (l.dropCalls now) (Pipeline.finish l.pipeline now).events
        { e with capture := none, shouldStop := true }

/-- Letting go of an engine goes one of these ways. -/
theorem release_drops (e : Engine ℓ σ π) (now : Instant) :
    e.Drops now (e.release now).calls (e.release now).events (e.release now).value := by
  cases hc : e.capture with
  | none => simpa [Engine.release, hc] using Drops.free hc
  | some l =>
    have hended : l.joined.ended = some l.lastEnd := rfl
    cases hl : l.lastEnd with
    | broken => simpa [Engine.release, hc, join, hended, hl] using Drops.lost hc hl
    | returned reason =>
      have h : e.Drops now _ _ _ := .returned hc hl
      rcases hf : (Pipeline.finish l.pipeline now).value with x | x | summary <;>
        simpa [Engine.release, hc, join, hended, hl, CaptureLoop.joined, CaptureLoop.dropCalls, hf]
          using h

/-! ## Steps -/

/-- What the engine says at last if a step is its end. -/
def farewell? : Step → Option (List Event)
  | .command .shutdown => some [.shutdown]
  | .disconnected => some []
  | _ => none

/-- The engine goes down when it is told to, and says so, or when nobody can tell it anything. -/
theorem farewell_cases {s : Step} {last : List Event} (h : farewell? s = some last) :
    s = .command .shutdown ∧ last = [.shutdown] ∨ s = .disconnected ∧ last = [] := by
  cases s with
  | command c =>
    cases c with
    | shutdown => exact .inl ⟨rfl, (Option.some.inj h).symm⟩
    | _ => cases h
  | disconnected => exact .inr ⟨rfl, (Option.some.inj h).symm⟩
  | _ => cases h

omit [FrameSource σ] [Pipeline π] in
/-- Going on leaves the engine as it is. -/
@[simp] theorem snd_goOn (r : Except Overflow Unit × Engine ℓ σ π) : (goOn r).2 = r.2 := by
  rcases r with ⟨_ | _, _⟩ <;> rfl

variable [Launcher ℓ σ π]

/-- What a step does. -/
inductive Acts (e : Engine ℓ σ π) (now : Instant) :
    Step → List Call → List Event → Verdict × Engine ℓ σ π → Prop
  /-- A session is started. -/
  | started {config : SessionConfig} {calls : List Call} {events : List Event}
      {e' : Engine ℓ σ π} (starts : e.Starts config now calls events e') :
      Acts e now (.command (.start config)) calls events (.waiting, e')
  /-- The session is stopped. -/
  | stopped {calls : List Call} {events : List Event} {r : Except Overflow Unit × Engine ℓ σ π}
      (stops : e.Stops now calls events r) : Acts e now (.command .stop) calls events (goOn r)
  /-- The application is told the state. -/
  | asked {o : Outbox} :
      Acts e now (.command .getState) [] [.stateChanged e.state e.state]
        (.waiting, { e with outbox := o })
  /-- The engine ends, having stopped its session. -/
  | closed {s : Step} {last : List Event} {calls : List Call} {events : List Event}
      {e' : Engine ℓ σ π} {o : Outbox} (farewell : farewell? s = some last)
      (stops : e.Stops now calls events (.ok (), e')) :
      Acts e now s calls (events ++ last) (.ended, { e' with outbox := o })
  /-- Arithmetic overflows while the session is stopped that the engine is to end with. -/
  | crashed {s : Step} {last : List Event} {calls : List Call} {events : List Event} {x : Overflow}
      {e' : Engine ℓ σ π} (farewell : farewell? s = some last)
      (stops : e.Stops now calls events (.error x, e')) :
      Acts e now s calls events (.failed x, e')
  /-- The session is looked after. -/
  | tended {calls : List Call} {events : List Event} {r : Except Overflow Unit × Engine ℓ σ π}
      (tends : e.Tends now calls events r) : Acts e now .timeout calls events (goOn r)
  /-- There is no capture loop to take a turn. -/
  | unheld (capture : e.capture = none) : Acts e now .turn [] [] (.waiting, e)
  /-- The capture loop takes a turn. -/
  | turned {l l' : CaptureLoop σ π} {m : Metrics} {calls : List Call} (capture : e.capture = some l)
      (turned : l.Turned e.metrics e.shouldStop calls (l', m)) :
      Acts e now .turn calls (l.turn e.metrics e.shouldStop now).events
        (.waiting, { e with capture := some l', metrics := m })
  /-- The capture loop breaks down in its turn. -/
  | broke {l l' : CaptureLoop σ π} {m : Metrics} {before : List Call} {source : σ} {pipeline : π}
      (capture : e.capture = some l) (running : l.ended = none) (untold : e.shouldStop = false)
      (breaks : l.Breaks e.metrics now before source pipeline)
      (broken : l'.ended = some .broken) :
      Acts e now .turn (before ++ CaptureLoop.wreckCalls pipeline)
        (l.turn e.metrics e.shouldStop now).events
        (.waiting, { e with capture := some l', metrics := m })

/-- The engine goes down as the session was stopped. -/
theorem goDown_acts {now : Instant} {s : Step} {last : List Event}
    (farewell : farewell? s = some last) :
    e.Acts now s
      ((e.stopSession now).calls ++
        (goDown (e.stopSession now).value.1 (e.stopSession now).value.2 last).calls)
      ((e.stopSession now).events ++
        (goDown (e.stopSession now).value.1 (e.stopSession now).value.2 last).events)
      (goDown (e.stopSession now).value.1 (e.stopSession now).value.2 last).value := by
  have h := e.stopSession_stops now
  rcases hv : (e.stopSession now).value with ⟨x | u, e'⟩
  · rw [hv] at h
    simpa [goDown] using Acts.crashed farewell h
  · rw [hv] at h
    obtain ⟨o, ho⟩ := e'.value_offerAll last
    simpa [goDown, ho] using Acts.closed (o := o) farewell h

/-- A step goes one of these ways. -/
theorem step_acts (e : Engine ℓ σ π) (s : Step) (now : Instant) :
    e.Acts now s (e.step s now).calls (e.step s now).events (e.step s now).value := by
  cases s with
  | command c =>
    cases c with
    | start config => simpa [step, handle] using Acts.started (e.startSession_starts config now)
    | stop => simpa [step, handle] using Acts.stopped (e.stopSession_stops now)
    | getState =>
      obtain ⟨o, ho⟩ := e.value_offer (.stateChanged e.state e.state)
      simpa [step, handle, sendState, ho] using Acts.asked (e := e) (o := o)
    | shutdown =>
      have h : e.Acts now (.command .shutdown) _ _ _ := goDown_acts rfl
      simpa [step, handle] using h
  | timeout => simpa [step] using Acts.tended (e.idle_tends now)
  | disconnected =>
    have h : e.Acts now .disconnected _ _ _ := goDown_acts rfl
    simpa [step] using h
  | turn =>
    cases hc : e.capture with
    | none => simpa [step, hc] using Acts.unheld hc
    | some l =>
      rcases l.turn_cases e.metrics e.shouldStop now with
        h | ⟨before, source, pipeline, running, untold, breaks, hcalls, broken⟩
      · have h : e.Acts now .turn _ _ _ := .turned hc h
        simpa [step, hc] using h
      · simpa [step, hc, hcalls] using Acts.broke hc running untold breaks broken

end Engine

end Framecast

import Framecast.Proofs.Engine.Acts
import Framecast.Proofs.Engine.Rest

/-!
# What a live session goes through

Of a live session an engine keeps the capture loop, the counters, and when the figures were last
published (`LiveSession`). On each occasion in its life the session is ended (`isEndedBy`), or it
goes on (`after`): its loop takes a turn with these counters, or its figures are published if they
are due, or nothing happens to it. An engine that holds a session does to it what `after` says
(`Engine.Holds.step`), or ends it (`Engine.Holds.ends`).

So a session goes on from its launch as long as its loop survives its turns (`Loops`), until the
loop breaks down in one of them, which may not be noticed for a while (`Wrecked`). There is no third
way (`Loops.after`, `Wrecked.after`).
-/

namespace Framecast

open Journaled

/-- The engine does not look whether the loop of its session has ended. -/
def Step.isHeedless : Step → Bool
  | .command (.start _) => true
  | .command .getState => true
  | .turn => true
  | _ => false

/-- Something that happens in the life of an engine, at some moment. -/
inductive Occasion
  /-- It takes a step. -/
  | step (x : Step × Instant)
  /-- It is let go. -/
  | release (now : Instant)

/-! ## Turns that a loop survives -/

namespace CaptureLoop

variable {σ π : Type}

/-- An answer to a frame does not break a loop down. -/
theorem endAfter_ne_broken (answer : Except SessionError DrainReport) :
    endAfter answer ≠ some .broken := by
  rcases answer with e | report
  · cases hr : e.isRecoverable with
    | true => simp [endAfter, hr]
    | false => cases he : e.isEndOfStream <;> simp [endAfter, hr, he]
  · by_cases ho : report.outcome = .endOfStream <;> simp [endAfter, ho]

/-- A turn that a loop survives neither breaks it down nor mends it. -/
theorem Turned.broken_iff [FrameSource σ] [Pipeline π] {l l' : CaptureLoop σ π} {m m' : Metrics}
    {stop : Bool} {calls : List Call} (h : l.Turned m stop calls (l', m')) :
    l'.ended = some .broken ↔ l.ended = some .broken := by
  cases h with
  | idle => exact Iff.rfl
  | stopped running => simp [running]
  | unfed => exact Iff.rfl
  | lost running => simp [running]
  | fed running => simp [running, endAfter_ne_broken]

/-- A loop ends broken down only if it has broken down. -/
theorem lastEnd_eq_broken {l : CaptureLoop σ π} : l.lastEnd = .broken ↔ l.ended = some .broken := by
  cases he : l.ended <;> simp [lastEnd, he]

end CaptureLoop

/-! ## Sessions -/

/-- A live session, between two steps of its engine. -/
structure LiveSession (σ π : Type) where
  loop : CaptureLoop σ π
  metrics : Metrics
  /-- When its figures were last published. -/
  lastStats : Instant

namespace LiveSession

variable {σ π : Type}

/-- A session that was launched goes live. -/
def begun (launched : Launched σ π) (config : SessionConfig) (now : Instant) : LiveSession σ π where
  loop := Engine.begun launched config now
  metrics := (Metrics.new (.ofFloat32 config.fps.toUInt64.toFloat32) now).start now
  lastStats := now

/-- The session does not live through this occasion: it is told to end, or it is found to have. -/
def isEndedBy (s : LiveSession σ π) : Occasion → Bool
  | .step (.timeout, _) => s.loop.ended.isSome
  | .step (st, _) => !st.isHeedless
  | .release _ => true

/-- The session after its figures were published, if they were due and could be. -/
def published (s : LiveSession σ π) (now : Instant) : LiveSession σ π :=
  if statsInterval.nanos ≤ (now.since s.lastStats).nanos then
    match s.metrics.snapshot now with
    | .error _ => s
    | .ok figures =>
      { s with
        metrics := (s.metrics.checkWarnings figures now).2.markReported now
        lastStats := now }
  else s

variable [FrameSource σ] [Pipeline π]

/-- What becomes of a session on an occasion that it lives through. -/
def after (s : LiveSession σ π) : Occasion → Journaled (LiveSession σ π)
  | .step (.turn, now) => do
    let (loop, metrics) ← s.loop.turn s.metrics false now
    return { s with loop, metrics }
  | .step (.timeout, now) => return s.published now
  | _ => return s

/-- What a session goes through while its loop does not break down: on these occasions, and by these
calls, it has become this session. -/
inductive Loops (first : LiveSession σ π) : List Occasion → List Call → LiveSession σ π → Prop
  /-- It has gone live. -/
  | start : Loops first [] [] first
  /-- There is one more occasion. -/
  | step {past : List Occasion} {calls : List Call} {s : LiveSession σ π} {x : Occasion}
      (before : Loops first past calls s) (stays : s.isEndedBy x = false)
      (survives : (s.after x).value.loop.ended ≠ some .broken) :
      Loops first (past ++ [x]) (calls ++ (s.after x).calls) (s.after x).value

/-- What a session has gone through whose loop has broken down without being noticed. -/
inductive Wrecked (first : LiveSession σ π) : List Occasion → List Call → LiveSession σ π → Prop
  /-- The loop breaks down in this turn, and lets go of the pipeline and of the source. -/
  | broke {past : List Occasion} {calls before : List Call} {s : LiveSession σ π} {now : Instant}
      {source : σ} {pipeline : π} (loops : first.Loops past calls s)
      (running : s.loop.ended = none)
      (breaks : s.loop.Breaks s.metrics now before source pipeline)
      (broken : (s.loop.turn s.metrics false now).value.1.ended = some .broken) :
      Wrecked first (past ++ [.step (.turn, now)])
        (calls ++ (before ++ (.release .pipeline :: (Pipeline.release pipeline).calls ++
          [.release .source])))
        (s.after (.step (.turn, now))).value
  /-- There is one more occasion on which nobody looks. -/
  | unnoticed {past : List Occasion} {calls : List Call} {s : LiveSession σ π} {x : Occasion}
      (before : Wrecked first past calls s) (stays : s.isEndedBy x = false) :
      Wrecked first (past ++ [x]) calls s

/-- What a session has gone through that has not been ended. -/
def Stands (first : LiveSession σ π) (past : List Occasion) (calls : List Call)
    (s : LiveSession σ π) : Prop :=
  first.Loops past calls s ∨ first.Wrecked past calls s

variable {first s : LiveSession σ π} {past : List Occasion} {calls : List Call} {x : Occasion}

omit [FrameSource σ] [Pipeline π] in
/-- The loop of a session that goes live has not broken down. -/
theorem begun_unbroken (launched : Launched σ π) (config : SessionConfig) (now : Instant) :
    (begun launched config now).loop.ended ≠ some .broken := by
  simp [begun, Engine.begun]

/-- A turn makes the calls of the loop. -/
@[simp] theorem calls_after_turn (now : Instant) :
    (s.after (.step (.turn, now))).calls = (s.loop.turn s.metrics false now).calls := by
  simp [after]

/-- A turn leaves the loop and the counters as the loop does. -/
@[simp] theorem value_after_turn (now : Instant) :
    (s.after (.step (.turn, now))).value =
      { s with
        loop := (s.loop.turn s.metrics false now).value.1
        metrics := (s.loop.turn s.metrics false now).value.2 } := by
  simp [after]

omit [FrameSource σ] [Pipeline π] in
/-- To publish figures is nothing to the loop. -/
@[simp] theorem loop_published (s : LiveSession σ π) (now : Instant) :
    (s.published now).loop = s.loop := by
  unfold published
  split
  · split <;> rfl
  · rfl

/-- On any occasion but a turn the loop does nothing. -/
theorem after_unturned (other : ∀ now, x ≠ .step (.turn, now)) :
    (s.after x).calls = [] ∧ (s.after x).value.loop = s.loop := by
  cases x with
  | release => exact ⟨rfl, rfl⟩
  | step y =>
    obtain ⟨st, now⟩ := y
    cases st with
    | command => exact ⟨rfl, rfl⟩
    | timeout => exact ⟨rfl, s.loop_published now⟩
    | disconnected => exact ⟨rfl, rfl⟩
    | turn => exact absurd rfl (other now)

/-- Nothing happens to a session whose loop has ended, until it is ended. -/
theorem after_of_ended (ended : s.loop.ended.isSome = true) (stays : s.isEndedBy x = false) :
    s.after x = pure s := by
  cases x with
  | release => rfl
  | step y =>
    obtain ⟨st, now⟩ := y
    cases st with
    | command => rfl
    | timeout => simp [isEndedBy, ended] at stays
    | disconnected => rfl
    | turn =>
      have hturn : s.loop.turn s.metrics false now = pure (s.loop, s.metrics) := if_pos ended
      simp [after, hturn]

/-- The loop of a session that goes on has not broken down. -/
theorem Loops.unbroken (h : first.Loops past calls s) (unbroken : first.loop.ended ≠ some .broken) :
    s.loop.ended ≠ some .broken := by
  cases h with
  | start => exact unbroken
  | step _ _ survives => exact survives

/-- The loop of a wrecked session has broken down. -/
theorem Wrecked.broken (h : first.Wrecked past calls s) : s.loop.ended = some .broken := by
  induction h with
  | broke _ _ _ broken =>
    rw [value_after_turn]
    exact broken
  | unnoticed _ _ ih => exact ih

/-- A session goes on, or its loop breaks down. -/
theorem Loops.after (h : first.Loops past calls s) (unbroken : first.loop.ended ≠ some .broken)
    (stays : s.isEndedBy x = false) :
    first.Loops (past ++ [x]) (calls ++ (s.after x).calls) (s.after x).value ∨
      first.Wrecked (past ++ [x]) (calls ++ (s.after x).calls) (s.after x).value := by
  have hunbroken := h.unbroken unbroken
  by_cases hturn : ∃ now, x = .step (.turn, now)
  · obtain ⟨now, rfl⟩ := hturn
    obtain hturned | ⟨before, source, pipeline, running, -, breaks, hcalls, hbroken⟩ :=
      s.loop.turn_cases s.metrics false now
    · have hsurvives : (s.after (.step (.turn, now))).value.loop.ended ≠ some .broken := by
        rw [value_after_turn]
        exact mt hturned.broken_iff.mp hunbroken
      exact .inl (h.step stays hsurvives)
    · right
      rw [calls_after_turn, hcalls]
      exact .broke h running breaks hbroken
  · -- A loop that does nothing does not break down.
    have hsurvives : (s.after x).value.loop.ended ≠ some .broken := by
      rw [(after_unturned (not_exists.mp hturn)).2]
      exact hunbroken
    exact .inl (h.step stays hsurvives)

/-- A wrecked session remains as it is. -/
theorem Wrecked.after (h : first.Wrecked past calls s) (stays : s.isEndedBy x = false) :
    first.Wrecked (past ++ [x]) (calls ++ (s.after x).calls) (s.after x).value := by
  have hended : s.loop.ended.isSome = true := by
    rw [h.broken]
    rfl
  rw [after_of_ended hended stays, calls_pure, value_pure, List.append_nil]
  exact h.unnoticed stays

/-- A session that has not been ended is so until it is. -/
theorem Stands.after (h : first.Stands past calls s) (unbroken : first.loop.ended ≠ some .broken)
    (stays : s.isEndedBy x = false) :
    first.Stands (past ++ [x]) (calls ++ (s.after x).calls) (s.after x).value := by
  rcases h with loops | wrecked
  · exact loops.after unbroken stays
  · exact .inr (wrecked.after stays)

/-- A session whose loop has returned, or does when it is told to, has gone on until then. -/
theorem Stands.loops (h : first.Stands past calls s) {reason : StopReason}
    (returned : s.loop.lastEnd = .returned reason) : first.Loops past calls s := by
  refine h.resolve_right fun wrecked => ?_
  rw [CaptureLoop.lastEnd_eq_broken.mpr wrecked.broken] at returned
  cases returned

/-- A session whose loop has not returned is wrecked. -/
theorem Stands.wrecked (h : first.Stands past calls s)
    (unbroken : first.loop.ended ≠ some .broken) (broken : s.loop.lastEnd = .broken) :
    first.Wrecked past calls s := by
  refine h.resolve_left fun loops => ?_
  exact loops.unbroken unbroken (CaptureLoop.lastEnd_eq_broken.mp broken)

end LiveSession

/-! ## The session of an engine -/

namespace Engine

variable {ℓ σ π : Type} {e : Engine ℓ σ π} {s : LiveSession σ π}

/-- An engine holds a session, whose loop it has not told to stop. -/
structure Holds (e : Engine ℓ σ π) (s : LiveSession σ π) : Prop where
  capture : e.capture = some s.loop
  metrics : e.metrics = s.metrics
  lastStats : e.lastStats = s.lastStats
  untold : e.shouldStop = false

/-- Holding a session does not depend on the state, the launcher, and what waits. -/
theorem Holds.congr {e' : Engine ℓ σ π} (h : e.Holds s) (capture : e'.capture = e.capture)
    (metrics : e'.metrics = e.metrics) (lastStats : e'.lastStats = e.lastStats)
    (shouldStop : e'.shouldStop = e.shouldStop) : e'.Holds s :=
  ⟨capture.trans h.capture, metrics.trans h.metrics, lastStats.trans h.lastStats,
    shouldStop.trans h.untold⟩

/-- A settled engine is live exactly if it holds a session. -/
theorem Holds.live (h : e.Holds s) (settled : e.Settled) : e.state.isLive = true := by
  rw [← settled.held, h.capture]
  rfl

/-- The session is over if its loop has ended. -/
theorem Holds.isOver_eq (h : e.Holds s) : e.isOver = s.loop.ended.isSome := by
  unfold isOver
  rw [h.capture]
  rfl

/-- The figures of a session that is held are due by the time since they were last published. -/
theorem Holds.isDue_iff (h : e.Holds s) (settled : e.Settled) (now : Instant) :
    e.isDue now = true ↔ statsInterval.nanos ≤ (now.since s.lastStats).nanos := by
  unfold isDue
  rw [h.live settled, h.lastStats, Bool.true_and, decide_eq_true_iff]

variable [FrameSource σ] [Pipeline π]

/-- Looking after a session that has not ended publishes its figures if they are due. -/
theorem Holds.tended (h : e.Holds s) (settled : e.Settled) {now : Instant} {calls : List Call}
    {events : List Event} {r : Except Overflow Unit × Engine ℓ σ π}
    (running : s.loop.ended.isSome = false) (tends : e.Tends now calls events r) :
    calls = [] ∧ r.2.Holds (s.published now) ∧ r.2.launcher = e.launcher := by
  have hdue := h.isDue_iff settled now
  cases tends with
  | noticed ended =>
    rw [h.isOver_eq, running] at ended
    cases ended
  | quiet _ due =>
    have hs : s.published now = s := if_neg fun hle => by simp [hdue.mpr hle] at due
    rw [hs]
    exact ⟨rfl, h, rfl⟩
  | unfigured _ due overflow =>
    rw [h.metrics] at overflow
    have hs : s.published now = s := by simp [LiveSession.published, overflow]
    rw [hs]
    exact ⟨rfl, h, rfl⟩
  | reported _ due figured =>
    rw [h.metrics] at figured
    rw [LiveSession.published, if_pos (hdue.mp due), figured]
    exact ⟨rfl, ⟨h.capture, by rw [h.metrics], rfl, h.untold⟩, rfl⟩

variable [Launcher ℓ σ π]

/-- A step that a session lives through does to it what is to be done to it. -/
theorem Holds.step (h : e.Holds s) (settled : e.Settled) {st : Step} {now : Instant}
    (stays : s.isEndedBy (.step (st, now)) = false) :
    (e.step st now).calls = (s.after (.step (st, now))).calls ∧
      (e.step st now).value.2.Holds (s.after (.step (st, now))).value ∧
      (e.step st now).value.2.launcher = e.launcher := by
  have hacts := e.step_acts st now
  cases st with
  | command c =>
    generalize (e.step (.command c) now).calls = more, (e.step (.command c) now).events = events,
      (e.step (.command c) now).value = x at hacts ⊢
    cases hacts with
    | started starts =>
      -- A live engine is busy, so only the first way to start is left: nothing happens.
      have hbusy : e.isBusy = true := by simp [isBusy, h.live settled]
      cases starts with
      | ignored => exact ⟨rfl, h, rfl⟩
      | rejected free => simp [hbusy] at free
      | failed free => simp [hbusy] at free
      | launched free => simp [hbusy] at free
    | stopped => cases stays
    | asked => exact ⟨rfl, h.congr rfl rfl rfl rfl, rfl⟩
    | closed farewell =>
      obtain ⟨hs, -⟩ | ⟨hs, -⟩ := farewell_cases farewell <;> cases hs
      cases stays
    | crashed farewell =>
      obtain ⟨hs, -⟩ | ⟨hs, -⟩ := farewell_cases farewell <;> cases hs
      cases stays
  | timeout =>
    generalize (e.step .timeout now).calls = more, (e.step .timeout now).events = events,
      (e.step .timeout now).value = x at hacts ⊢
    cases hacts with
    | closed farewell => cases farewell
    | crashed farewell => cases farewell
    | tended tends =>
      rw [snd_goOn]
      exact h.tended settled stays tends
  | disconnected => cases stays
  | turn =>
    rw [LiveSession.calls_after_turn, LiveSession.value_after_turn]
    -- The engine lends its counters to the loop, and has not told it to stop.
    have hstep : (e.step .turn now).calls = (s.loop.turn s.metrics false now).calls ∧
        (e.step .turn now).value.2 = { e with
          capture := some (s.loop.turn s.metrics false now).value.1
          metrics := (s.loop.turn s.metrics false now).value.2 } := by
      simp [Engine.step, h.capture, h.metrics, h.untold]
    rw [hstep.2]
    exact ⟨hstep.1, ⟨rfl, rfl, h.lastStats, h.untold⟩, rfl⟩

/-- A step that a session does not live through ends it. -/
theorem Holds.ends (h : e.Holds s) (settled : e.Settled) {st : Step} {now : Instant}
    (ended : s.isEndedBy (.step (st, now)) = true) :
    ∃ shown r, e.Ends now (e.step st now).calls shown r ∧
      (e.step st now).value.2.capture = r.2.capture ∧
      (e.step st now).value.2.launcher = r.2.launcher := by
  have hlive := h.live settled
  have hstops : ∀ {calls : List Call} {events : List Event}
      {r : Except Overflow Unit × Engine ℓ σ π}, e.Stops now calls events r →
      e.Ends now calls events r := by
    intro calls events r stops
    cases stops with
    | cleared error =>
      obtain ⟨message, recoverable, hs⟩ := SessionState.eq_error error
      rw [hs] at hlive
      cases hlive
    | ignored _ unlive => simp [hlive] at unlive
    | ended _ ends => exact ends
  have hacts := e.step_acts st now
  generalize (e.step st now).calls = more, (e.step st now).events = events,
    (e.step st now).value = x at hacts ⊢
  cases hacts with
  | started => cases ended
  | stopped stops =>
    rw [snd_goOn]
    exact ⟨_, _, hstops stops, rfl, rfl⟩
  | asked => cases ended
  | closed _ stops => exact ⟨_, _, hstops stops, rfl, rfl⟩
  | crashed _ stops => exact ⟨_, _, hstops stops, rfl, rfl⟩
  | tended tends =>
    rw [snd_goOn]
    -- A timeout ends the session only if its loop has ended, and then that is noticed.
    have hover : e.isOver = true := h.isOver_eq.trans ended
    cases tends with
    | noticed _ ends => exact ⟨_, _, ends, rfl, rfl⟩
    | quiet running => simp [hover] at running
    | unfigured running => simp [hover] at running
    | reported running => simp [hover] at running
  | unheld => cases ended
  | turned => cases ended
  | broke => cases ended

end Engine

end Framecast

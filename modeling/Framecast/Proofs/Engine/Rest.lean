import Framecast.Engine.Run

/-!
# The engine at rest

Between two steps the engine is idle, live or in the error state, and holds a capture loop exactly
if it is live (`Settled`). Starting and stopping are states within a step only: whatever a launch or
the end of a session announces, the state that it leads to is entered at its end. Each operation is
settled by what it does to the state and to the capture loop; the rest of the engine does not
matter.

An overflow ends the engine in the middle of a step, which may leave it stopping, but then without a
capture loop.
-/

namespace Framecast

open Journaled

/-- An idle state and an error state are not live. -/
theorem SessionState.isLive_of_unused {s : SessionState}
    (unused : s.isIdle = true ∨ s.isError = true) : s.isLive = false := by
  cases s with
  | live _ _ => rcases unused with h | h <;> cases h
  | _ => rfl

namespace Engine

variable {ℓ σ π : Type} {e : Engine ℓ σ π}

/-- The engine is not in transit, and holds a capture loop exactly if it is live. -/
structure Settled (e : Engine ℓ σ π) : Prop where
  /-- It is idle, live or in the error state. -/
  rests : e.state.isIdle = true ∨ e.state.isLive = true ∨ e.state.isError = true
  /-- A live session has a capture loop, and nothing else has. -/
  held : e.capture.isSome = e.state.isLive

/-! ## Telling the application -/

/-- Offering an event leaves the state alone. -/
@[simp] theorem state_offer (e : Engine ℓ σ π) (event : Event) :
    (e.offer event).value.state = e.state := by
  unfold offer
  split <;> rfl

/-- Offering an event leaves the capture loop alone. -/
@[simp] theorem capture_offer (e : Engine ℓ σ π) (event : Event) :
    (e.offer event).value.capture = e.capture := by
  unfold offer
  split <;> rfl

/-- Offering events leaves the state alone. -/
@[simp] theorem state_offerAll (e : Engine ℓ σ π) (events : List Event) :
    (e.offerAll events).value.state = e.state := by
  induction events generalizing e with
  | nil => rfl
  | cons event events ih => simp [offerAll, ih]

/-- Offering events leaves the capture loop alone. -/
@[simp] theorem capture_offerAll (e : Engine ℓ σ π) (events : List Event) :
    (e.offerAll events).value.capture = e.capture := by
  induction events generalizing e with
  | nil => rfl
  | cons event events ih => simp [offerAll, ih]

/-- A state that is entered is the state. -/
@[simp] theorem state_enter (e : Engine ℓ σ π) (state : SessionState) :
    (e.enter state).value.state = state := by
  simp [enter]

/-- Entering a state leaves the capture loop alone. -/
@[simp] theorem capture_enter (e : Engine ℓ σ π) (state : SessionState) :
    (e.enter state).value.capture = e.capture := by
  simp [enter]

/-- Failing leads to the error state. -/
@[simp] theorem state_fail (e : Engine ℓ σ π) (message : String) (recoverable : Bool) :
    (e.fail message recoverable).value.state = .error message recoverable := by
  simp [fail]

/-- Failing leaves the capture loop alone. -/
@[simp] theorem capture_fail (e : Engine ℓ σ π) (message : String) (recoverable : Bool) :
    (e.fail message recoverable).value.capture = e.capture := by
  simp [fail]

/-- Following announcements leaves the capture loop alone. -/
@[simp] theorem capture_follow (e : Engine ℓ σ π) (state? : Happening → Option SessionState)
    (entries : List Entry) : (e.follow state? entries).value.capture = e.capture := by
  induction entries generalizing e with
  | nil => rfl
  | cons x xs ih =>
    cases hs : state? x.what with
    | none => simp [follow, hs, ih]
    | some state => simp [follow, hs, ih]

/-- Following announcements leads to no state but those that they stand for. -/
theorem state_follow {P : SessionState → Prop} {state? : Happening → Option SessionState}
    (announced : ∀ h state, state? h = some state → P state) (entries : List Entry)
    (before : P e.state) : P (e.follow state? entries).value.state := by
  induction entries generalizing e with
  | nil => exact before
  | cons x xs ih =>
    cases hs : state? x.what with
    | none =>
      have h := ih before
      simpa [follow, hs] using h
    | some state =>
      have h : P ((e.enter state).value.follow state? xs).value.state := by
        apply ih
        rw [state_enter]
        exact announced _ _ hs
      simpa [follow, hs] using h

/-- An engine that has entered the idle or the error state without a capture loop is settled. -/
theorem settled_of_none (capture : e.capture = none)
    (state : e.state.isIdle = true ∨ e.state.isError = true) : e.Settled := by
  have hlive := SessionState.isLive_of_unused state
  refine ⟨state.elim .inl fun h => .inr (.inr h), ?_⟩
  rw [capture, hlive]
  rfl

/-- An engine is as settled as another one with the same state that holds a capture loop alike. -/
theorem Settled.congr {e' : Engine ℓ σ π} (h : e.Settled) (state : e'.state = e.state)
    (capture : e'.capture.isSome = e.capture.isSome) : e'.Settled := by
  refine ⟨?_, ?_⟩
  · rw [state]
    exact h.rests
  · rw [state, capture]
    exact h.held

/-- A settled engine that is not live holds no capture loop. -/
theorem Settled.capture_eq_none (h : e.Settled) (live : e.state.isLive = false) :
    e.capture = none := by
  have hheld := h.held
  rw [live, Option.isSome_eq_false_iff] at hheld
  exact Option.isNone_iff_eq_none.mp hheld

/-! ## Starting a session -/

/-- An engine that has just begun to run is settled. -/
theorem boot_settled (launcher : ℓ) (outbox : Outbox) (now : Instant) :
    Settled (new launcher outbox now : Engine ℓ σ π).boot.value := by
  refine ⟨.inl ?_, ?_⟩
  · simp [boot, new, SessionState.isIdle]
  · simp [boot, new, SessionState.isLive]

/-- A launch leaves the capture loop alone. -/
theorem capture_launch [Launcher ℓ σ π] (e : Engine ℓ σ π) (config : SessionConfig)
    (now : Instant) : (e.launch config now).value.2.capture = e.capture := by
  simp [launch]

/-- Going live settles the engine. -/
theorem goLive_settled (e : Engine ℓ σ π) (config : SessionConfig) (launched : Launched σ π)
    (now : Instant) : (e.goLive config launched now).value.Settled := by
  refine ⟨.inr (.inl ?_), ?_⟩
  · simp [goLive, SessionState.isLive]
  · simp [goLive, SessionState.isLive]

/-- Starting a session leaves a settled engine settled. -/
theorem startSession_settled [Launcher ℓ σ π] (h : e.Settled) (config : SessionConfig)
    (now : Instant) : (e.startSession config now).value.Settled := by
  unfold startSession
  rw [value_within]
  split
  · exact h
  · rename_i hbusy
    simp only [Bool.or_eq_true, not_or, Bool.not_eq_true] at hbusy
    have hnone := h.capture_eq_none hbusy.1.2
    -- A configuration that cannot be used is reported, and nothing else happens.
    split
    · exact h.congr (by simp) (by simp)
    · have hcapture := capture_launch (e.enter (.starting .acquireDevice)).value config now
      simp only [value_bind]
      generalize ((e.enter (.starting .acquireDevice)).value.launch config now).value = x
        at hcapture ⊢
      -- Whatever phases the launch announced, it ends in the error state or goes live.
      rcases x with ⟨x | launched, e'⟩
      · refine settled_of_none ?_ (.inr ?_)
        · simpa [hnone] using hcapture
        · simp [SessionState.isError]
      · exact goLive_settled e' config launched now

/-! ## Ending a session -/

/-- An engine that an overflow has ended is settled, or was taking a session down and has let go of
its capture loop. -/
def Halted (e : Engine ℓ σ π) : Prop :=
  e.Settled ∨ e.capture = none ∧ e.state.isStopping = true

/-- An operation leaves the engine settled, or halted by an overflow. -/
def Leaves : Except Overflow Unit × Engine ℓ σ π → Prop
  | (.ok (), e) => e.Settled
  | (.error _, e) => e.Halted

/-- At its end, a session leads to the idle or the error state. -/
theorem conclude_rests (e : Engine ℓ σ π) (reason : StopReason)
    (result : Except SessionError SessionSummary) :
    ((e.conclude reason result).value.state.isIdle = true ∨
      (e.conclude reason result).value.state.isError = true) ∧
    (e.conclude reason result).value.capture = e.capture := by
  rcases result with x | summary
  · simp [conclude, SessionState.isError]
  · cases hf : reason.isFailure with
    | true => simp [conclude, hf, SessionState.isError]
    | false => simp [conclude, hf, SessionState.isIdle]

variable [FrameSource σ] [Pipeline π]

/-- Taking a session down, once the capture loop is gone, settles the engine. -/
theorem takeDown_leaves (l : CaptureLoop σ π) (reason : StopReason) (now : Instant)
    (capture : e.capture = none) : Leaves (e.takeDown l reason now).value := by
  -- All phases of finishing are announced as stopping.
  have hstate : ((e.enter (.stopping reason .stopCapture)).value.follow (stoppingState? reason)
      (Pipeline.finish l.pipeline now).entries).value.state.isStopping = true := by
    refine state_follow (P := fun state => state.isStopping = true) ?_ _ (by simp; rfl)
    intro h state hs
    cases h with
    | shutdown phase =>
      obtain rfl := Option.some.inj hs
      rfl
    | _ => cases hs
  have hcapture : ((e.enter (.stopping reason .stopCapture)).value.follow (stoppingState? reason)
      (Pipeline.finish l.pipeline now).entries).value.capture = none := by
    simp [capture]
  simp only [takeDown, value_bind]
  generalize ((e.enter (.stopping reason .stopCapture)).value.follow (stoppingState? reason)
    (Pipeline.finish l.pipeline now).entries).value = e' at hstate hcapture ⊢
  -- An overflow of the pipeline or of the figures ends the engine here, while it is stopping.
  rcases (Pipeline.finish l.pipeline now).value with x | result
  · exact .inr ⟨hcapture, hstate⟩
  · rcases hs : e'.metrics.snapshot now with x | stats
    · exact .inr ⟨hcapture, hstate⟩
    · simp only [value_bind, value_pure]
      obtain ⟨hrests, hkept⟩ := conclude_rests _ reason result
      refine settled_of_none (hkept.trans ?_) hrests
      simpa using hcapture

/-- Stopping the capture loop and taking the session down settles the engine, if there is a capture
loop. -/
theorem endSession_leaves (now : Instant) (held : e.capture.isSome = true) :
    Leaves (e.endSession now).value := by
  obtain ⟨l, hl⟩ := Option.isSome_iff_exists.mp held
  simp only [endSession, hl, value_bind, join, value_pure, value_elsewhere]
  rcases (l.turn e.metrics true now).value with ⟨l', metrics⟩
  -- Only a loop that has ended leaves a session to take down; a lost one leaves an error.
  rcases l'.ended with _ | reason | _
  · exact settled_of_none (by simp) (.inr (by simp; rfl))
  · exact takeDown_leaves l' reason now rfl
  · exact settled_of_none (by simp) (.inr (by simp; rfl))

/-- Stopping the session leaves a settled engine settled. -/
theorem stopSession_leaves (h : e.Settled) (now : Instant) :
    Leaves (e.stopSession now).value := by
  unfold stopSession
  rw [value_within]
  cases he : e.state.isError with
  | true =>
    have hnone := h.capture_eq_none (SessionState.isLive_of_unused (.inr he))
    simp only [if_true, value_bind, value_pure]
    exact settled_of_none (by simpa using hnone) (.inl (by simp; rfl))
  | false =>
    -- A live engine holds a capture loop to stop; otherwise there is nothing to stop.
    cases hl : e.state.isLive with
    | true => exact endSession_leaves now (h.held.trans hl)
    | false => exact h

/-- Noticing that the capture loop has ended leaves a settled engine settled. -/
theorem noticeEnd_leaves (h : e.Settled) (now : Instant) : Leaves (e.noticeEnd now).value := by
  unfold noticeEnd
  split
  · rename_i hended
    refine endSession_leaves now ?_
    cases hc : e.capture <;> simp [hc] at hended ⊢
  · exact h

/-! ## Looking after the session -/

omit [FrameSource σ] [Pipeline π] in
/-- Publishing figures leaves a settled engine settled. -/
theorem emitStats_leaves (h : e.Settled) (now : Instant) : Leaves (e.emitStats now).value := by
  unfold emitStats
  rcases e.metrics.snapshot now with x | stats
  · exact .inl h
  · exact h.congr (by simp) (by simp)

/-- Looking after the session leaves a settled engine settled. -/
theorem idle_leaves (h : e.Settled) (now : Instant) : Leaves (e.idle now).value := by
  have hn := noticeEnd_leaves h now
  unfold idle
  rw [value_bind]
  generalize (e.noticeEnd now).value = x at hn ⊢
  rcases x with ⟨x | u, e'⟩
  · exact hn
  · dsimp only
    split
    · exact emitStats_leaves hn now
    · exact hn

/-! ## Running -/

/-- After a step that the engine survives or ends well with, it is settled; an overflow leaves it
halted. -/
def Sound : Verdict × Engine ℓ σ π → Prop
  | (.waiting, e) => e.Settled
  | (.ended, e) => e.Settled
  | (.failed _, e) => e.Halted

omit [FrameSource σ] [Pipeline π] in
/-- Going on keeps what an operation left. -/
theorem goOn_sound {x : Except Overflow Unit × Engine ℓ σ π} (h : Leaves x) : Sound (goOn x) := by
  rcases x with ⟨x | u, e⟩
  · exact h
  · exact h

omit [FrameSource σ] [Pipeline π] in
/-- Going down keeps what an operation left. -/
theorem goDown_sound {r : Except Overflow Unit} (h : Leaves (r, e)) (last : List Event) :
    Sound (goDown r e last).value := by
  rcases r with x | u
  · exact h
  · have hs : e.Settled := h
    exact hs.congr (by simp) (by simp)

variable [Launcher ℓ σ π]

/-- A step keeps a settled engine settled, whatever step it is. -/
theorem step_sound (h : e.Settled) (s : Step) (now : Instant) : Sound (e.step s now).value := by
  cases s with
  | command c =>
    cases c with
    | start config => exact startSession_settled h config now
    | stop => exact goOn_sound (stopSession_leaves h now)
    | getState => exact h.congr (by simp [sendState]) (by simp [sendState])
    | shutdown => exact goDown_sound (stopSession_leaves h now) [.shutdown]
  | timeout => exact goOn_sound (idle_leaves h now)
  | disconnected => exact goDown_sound (stopSession_leaves h now) []
  | turn =>
    cases hc : e.capture with
    | none => simpa [step, hc, Sound] using h
    | some l =>
      have hturn : Settled { e with
          capture := some (l.turn e.metrics e.shouldStop now).value.1
          metrics := (l.turn e.metrics e.shouldStop now).value.2 } :=
        h.congr rfl (by rw [hc]; rfl)
      simpa [step, hc, Sound] using hturn

/-- Take steps, each at its moment, as long as the engine goes on. -/
def run (e : Engine ℓ σ π) : List (Step × Instant) → Journaled (Verdict × Engine ℓ σ π)
  | [] => return (.waiting, e)
  | (s, now) :: rest => do
    let (verdict, e) ← e.step s now
    match verdict with
    | .waiting => e.run rest
    | verdict => return (verdict, e)

/-- A run keeps a settled engine settled. -/
theorem run_sound (h : e.Settled) (steps : List (Step × Instant)) :
    Sound (e.run steps).value := by
  induction steps generalizing e with
  | nil => exact h
  | cons x rest ih =>
    obtain ⟨s, now⟩ := x
    have hs := step_sound h s now
    unfold run
    rw [value_bind]
    generalize (e.step s now).value = y at hs ⊢
    rcases y with ⟨_ | _ | _, e'⟩
    · exact ih hs
    · exact hs
    · exact hs

/-- Between any two steps of an engine, from its beginning to its end, whatever its launcher, its
sources and its pipelines do, it is idle, live or in the error state, and holds a capture loop
exactly if it is live. Only an overflow in the middle of a step can leave it stopping, and ends it.
-/
theorem settled_between_steps (launcher : ℓ) (outbox : Outbox) (start : Instant)
    (steps : List (Step × Instant)) :
    Sound ((new launcher outbox start : Engine ℓ σ π).boot.value.run steps).value :=
  run_sound (boot_settled launcher outbox start) steps

end Engine

end Framecast

import Framecast.Engine.CaptureLoop

/-!
# The engine

The engine turns commands into sessions, one at a time, and tells the application what happens. It
holds a capture loop exactly while a session is live. Events are offered to a channel with limited
room; one that finds no room is lost.
-/

namespace Framecast

open Journaled

/-- How often the figures of a live session are published. -/
def statsInterval : Duration := .ofSeconds 1 0

/-- Events on their way to the application. -/
structure Outbox where
  /-- How many events can wait. -/
  capacity : Nat := eventCapacity
  /-- Events that wait, the oldest first. -/
  waiting : List Event := []

/-- The engine between two steps. -/
structure Engine (ℓ σ π : Type) where
  launcher : ℓ
  outbox : Outbox
  state : SessionState
  metrics : Metrics
  /-- The capture loop of the live session. -/
  capture : Option (CaptureLoop σ π)
  /-- The capture loop has been told to stop. -/
  shouldStop : Bool
  /-- When the figures were last published. -/
  lastStats : Instant

namespace Engine

variable {ℓ σ π : Type}

/-- An engine at rest. -/
def new (launcher : ℓ) (outbox : Outbox) (now : Instant) : Engine ℓ σ π :=
  { launcher
    outbox
    state := .idle
    metrics := .new Metrics.defaultTargetFps now
    capture := none
    shouldStop := false
    lastStats := now }

/-- Offer an event to the application. -/
def offer (e : Engine ℓ σ π) (event : Event) : Journaled (Engine ℓ σ π) := do
  if e.outbox.waiting.length < e.outbox.capacity then
    happen (.event event true)
    return { e with outbox := { e.outbox with waiting := e.outbox.waiting ++ [event] } }
  else
    happen (.event event false)
    say .warn .engine "Failed to send event: sending on a full channel" []
    return e

/-- Offer events one after the other. -/
def offerAll (e : Engine ℓ σ π) : List Event → Journaled (Engine ℓ σ π)
  | [] => return e
  | event :: events => do
    let e ← e.offer event
    e.offerAll events

/-- Enter a state and tell the application. -/
def enter (e : Engine ℓ σ π) (state : SessionState) : Journaled (Engine ℓ σ π) := do
  say .debug .engine "State transition"
    [⟨"previous", .plain e.state.name⟩, ⟨"current", .plain state.name⟩]
  { e with state }.offer (.stateChanged e.state state)

/-- Enter the error state and report the error. -/
def fail (e : Engine ℓ σ π) (message : String) (recoverable : Bool) :
    Journaled (Engine ℓ σ π) := do
  let e ← e.enter (.error message recoverable)
  e.offer (.error recoverable message)

/-- Go through what happened elsewhere, and enter the state that each announcement stands for, where
it was made. -/
def follow (e : Engine ℓ σ π) (state? : Happening → Option SessionState) :
    List Entry → Journaled (Engine ℓ σ π)
  | [] => return e
  | x :: xs => do
    repeatEntry x
    match state? x.what with
    | none => e.follow state? xs
    | some state => do
      let e ← (e.enter state).beside x
      e.follow state? xs

/-- The state that a phase of startup stands for; the first one has been entered before. -/
def startingState? : Happening → Option SessionState
  | .startup .acquireDevice => none
  | .startup phase => some (.starting phase)
  | _ => none

/-- The state that a phase of shutdown stands for. -/
def stoppingState? (reason : StopReason) : Happening → Option SessionState
  | .shutdown phase => some (.stopping reason phase)
  | _ => none

variable [FrameSource σ] [Pipeline π]

/-! ## Ending a session -/

/-- Wait for the capture loop to end, having told it to stop. -/
def join (e : Engine ℓ σ π) (l : CaptureLoop σ π) (now : Instant) :
    Journaled (CaptureLoop σ π × Engine ℓ σ π) := do
  let (l, metrics) ← (l.turn e.metrics true now).elsewhere
  return (l, { e with metrics, capture := none })

/-- Stop a source; one that refuses is only mentioned. -/
def stopSource (source : σ) : Journaled Unit := do
  let (answer, _) := FrameSource.stop source
  call (.stopSource answer)
  match answer with
  | .ok () => return
  | .error x => say .warn .engine "Failed to stop frame source" [⟨"err", .plain x.message⟩]

/-- The figures at the end: what the session amounts to, where it is known. -/
def finalStats (s : SessionStats) : Except SessionError SessionSummary → SessionStats
  | .ok summary =>
    { s with
      packetsWritten := .ofNat summary.packetsWritten
      writeFailures := .ofNat summary.writeFailures }
  | .error _ => s

/-- The session is over: enter the state that the reason and the answer of the pipeline call for. -/
def conclude (e : Engine ℓ σ π) (reason : StopReason) :
    Except SessionError SessionSummary → Journaled (Engine ℓ σ π)
  | .ok summary => do
    if reason.isFailure then
      happen (.line ⟨.error, .engine, "Session ended", some reason.message, []⟩)
      e.fail reason.message false
    else
      say .info .engine "Session stopped"
        [⟨"frames", .nat summary.framesSubmitted⟩, ⟨"packets", .nat summary.packetsWritten⟩]
      e.enter .idle
  | .error x => do
    say .error .engine "Session teardown failed" [⟨"err", .plain x.message⟩]
    e.fail x.message false

/-- Take down a session whose capture loop returned. An overflow ends the engine. -/
def takeDown (e : Engine ℓ σ π) (l : CaptureLoop σ π) (reason : StopReason) (now : Instant) :
    Journaled (Except Overflow Unit × Engine ℓ σ π) := do
  let e ← e.enter (.stopping reason .stopCapture)
  stopSource l.source
  Journaled.release .source
  call .finish
  let finished := Pipeline.finish l.pipeline now
  let e ← e.follow (stoppingState? reason) finished.entries
  Journaled.release .pipeline
  match finished.value with
  | .error x => return (.error x, e)
  | .ok result =>
    match e.metrics.snapshot now with
    | .error x => return (.error x, e)
    | .ok stats => do
      let e ← e.offer (.stats (finalStats stats result))
      let e := { e with metrics := e.metrics.stop }
      return (.ok (), ← e.conclude reason result)

/-- Stop the capture loop and take the session down. -/
def endSession (e : Engine ℓ σ π) (now : Instant) :
    Journaled (Except Overflow Unit × Engine ℓ σ π) := do
  let e := { e with shouldStop := true }
  match e.capture with
  | none => return (.ok (), e)
  | some l => do
    let (l, e) ← e.join l now
    match l.ended with
    | some (.returned reason) => e.takeDown l reason now
    | _ => do
      say .error .engine "Capture loop panicked" []
      let e := { e with metrics := e.metrics.stop }
      return (.ok (), ← e.fail "Capture loop panicked" false)

/-- Stop the live session, or leave the error state. -/
def stopSession (e : Engine ℓ σ π) (now : Instant) :
    Journaled (Except Overflow Unit × Engine ℓ σ π) :=
  within ⟨"stop_session", [⟨"reason", .plain "UserRequested"⟩]⟩ do
    if e.state.isError then return (.ok (), ← e.enter .idle)
    else if !e.state.isLive then
      say .debug .engine "No live session, ignoring stop command" []
      return (.ok (), e)
    else
      say .info .engine "Stopping session" [⟨"reason", .plain "UserRequested"⟩]
      e.endSession now

/-- Take the session down if its capture loop has ended. -/
def noticeEnd (e : Engine ℓ σ π) (now : Instant) :
    Journaled (Except Overflow Unit × Engine ℓ σ π) :=
  if e.capture.any fun l => l.ended.isSome then e.endSession now else return (.ok (), e)

/-! ## Publishing figures -/

/-- Publish the figures and what they warn of. -/
def emitStats (e : Engine ℓ σ π) (now : Instant) :
    Journaled (Except Overflow Unit × Engine ℓ σ π) :=
  match e.metrics.snapshot now with
  | .error x => return (.error x, e)
  | .ok stats => do
    let (warnings, metrics) := e.metrics.checkWarnings stats now
    let e ← { e with metrics }.offerAll (warnings.map .warning)
    let e ← e.offer (.stats stats)
    return (.ok (), { e with metrics := e.metrics.markReported now, lastStats := now })

/-- No command came in time: notice a capture loop that has ended, publish figures when they are
due. -/
def idle (e : Engine ℓ σ π) (now : Instant) :
    Journaled (Except Overflow Unit × Engine ℓ σ π) := do
  let (r, e) ← e.noticeEnd now
  match r with
  | .error x => return (.error x, e)
  | .ok () =>
    if e.state.isLive && statsInterval.nanos ≤ (now.since e.lastStats).nanos then e.emitStats now
    else return (.ok (), e)

/-- Let go of the engine. A live session is finished, unannounced. -/
def release (e : Engine ℓ σ π) (now : Instant) : Journaled (Engine ℓ σ π) := do
  let e := { e with shouldStop := true }
  match e.capture with
  | none => return e
  | some l => do
    let (l, e) ← e.join l now
    match l.ended with
    | some (.returned _) => do
      stopSource l.source
      call .finish
      let result ← Pipeline.finish l.pipeline now
      Journaled.release .pipeline
      match result with
      | .ok (.error x) =>
        say .warn .engine "Failed to finish session on drop" [⟨"err", .plain x.message⟩]
      | _ => pure ()
      Journaled.release .source
      return e
    | _ => return e

end Engine

end Framecast

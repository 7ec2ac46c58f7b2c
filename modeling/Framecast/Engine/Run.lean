import Framecast.Engine.Basic

/-!
# Running the engine

The engine waits for a command, and after a tenth of a second without one looks after the live
session. Beside it the capture loop takes its turns. A `Step` is one of these, in whatever order
they come; the clock moves between them.
-/

namespace Framecast

open Journaled

/-- A configuration within a log line. -/
def SessionConfig.describe (c : SessionConfig) : String :=
  "SessionConfig \x7b output_url: " ++ quoteForLog c.outputUrl ++ ", output_format: "
    ++ (match c.outputFormat with
      | none => "None"
      | some f => "Some(" ++ quoteForLog f ++ ")")
    ++ ", quality: " ++ c.quality.label ++ ", codec: " ++ c.codec.label ++ ", fps: "
    ++ toString c.fps.toNat ++ " \x7d"

/-- A command within a log line. -/
def Command.describe : Command → String
  | .start config => "Start \x7b config: " ++ config.describe ++ " \x7d"
  | .stop => "Stop"
  | .getState => "GetState"
  | .shutdown => "Shutdown"

/-- How the engine goes on after a step. -/
inductive Verdict
  /-- It waits for the next command. -/
  | waiting
  /-- It has ended. -/
  | ended
  /-- Arithmetic overflowed, which ends it too. -/
  | failed (x : Overflow)
deriving DecidableEq, Repr

/-- Something that happens to a running engine. -/
inductive Step
  | command (c : Command)
  /-- No command came in time. -/
  | timeout
  /-- There will be no more commands. -/
  | disconnected
  /-- The capture loop takes a turn. -/
  | turn

namespace Engine

variable {ℓ σ π : Type} [FrameSource σ] [Pipeline π] [Launcher ℓ σ π]

/-- The span that all work of a running engine falls into. -/
def runSpan : Span := ⟨"engine_run", []⟩

/-- Launch a session for a usable configuration, following its announcements. -/
def launch (e : Engine ℓ σ π) (config : SessionConfig) (now : Instant) :
    Journaled (Except SessionError (Launched σ π) × Engine ℓ σ π) := do
  call (.launch config)
  let launched := Launcher.launch e.launcher config now
  let e ← e.follow startingState? launched.entries
  return (launched.value.1, { e with launcher := launched.value.2 })

/-- A launched session goes live. -/
def goLive (e : Engine ℓ σ π) (config : SessionConfig) (launched : Launched σ π)
    (now : Instant) : Journaled (Engine ℓ σ π) := do
  let metrics := (Metrics.new (.ofFloat32 config.fps.toUInt64.toFloat32) now).start now
  let e ← { e with metrics, lastStats := now }.enter (.live config {})
  let interval := Duration.ofNanos (1000000000 / config.fps.toNat)
  let l ← (CaptureLoop.launch launched interval now).elsewhere
  say .info .engine "Session started successfully" []
  return { e with capture := some l, shouldStop := false }

/-- Start a session, unless there is one. -/
def startSession (e : Engine ℓ σ π) (config : SessionConfig) (now : Instant) :
    Journaled (Engine ℓ σ π) :=
  within ⟨"start_session", []⟩ do
    if e.state.isStarting || e.state.isLive || e.state.isStopping then
      say .debug .engine "Session already running, ignoring start command" []
      return e
    else
    match config.validate with
    | .error x => do
      say .warn .engine "Rejected session configuration" [⟨"err", .plain x.message⟩]
      e.offer (.error true x.message)
    | .ok () => do
    say .info .engine "Starting session"
      [⟨"url", .plain config.outputUrl⟩, ⟨"codec", .quoted config.codec.name⟩,
        ⟨"tier", .quoted config.quality.name⟩, ⟨"fps", .nat config.fps.toNat⟩]
    let e ← e.enter (.starting .acquireDevice)
    let (r, e) ← e.launch config now
    match r with
    | .ok launched => e.goLive config launched now
    | .error x => do
      say .error .engine "Session start failed" [⟨"err", .plain x.message⟩]
      e.fail x.message (match x with
        | .config _ => true
        | _ => false)

/-- Tell the application the state. -/
def sendState (e : Engine ℓ σ π) : Journaled (Engine ℓ σ π) :=
  e.offer (.stateChanged e.state e.state)

/-- The engine goes on, or an overflow ends it. -/
def goOn : Except Overflow Unit × Engine ℓ σ π → Verdict × Engine ℓ σ π
  | (.ok (), e) => (.waiting, e)
  | (.error x, e) => (.failed x, e)

/-- The engine ends, having stopped its session. -/
def goDown (r : Except Overflow Unit) (e : Engine ℓ σ π) (last : List Event) :
    Journaled (Verdict × Engine ℓ σ π) := do
  match r with
  | .error x => return (.failed x, e)
  | .ok () => do
    let e ← e.offerAll last
    say .info .engine "Engine stopped" []
    return (.ended, e)

/-- Do what a command asks. -/
def handle (e : Engine ℓ σ π) (c : Command) (now : Instant) :
    Journaled (Verdict × Engine ℓ σ π) := do
  say .debug .engine "Handling command" [⟨"command", .plain c.describe⟩]
  match c with
  | .start config => return (.waiting, ← e.startSession config now)
  | .stop => return goOn (← e.stopSession now)
  | .getState => return (.waiting, ← e.sendState)
  | .shutdown => do
    let (r, e) ← e.stopSession now
    goDown r e [.shutdown]

/-- The engine begins to run. -/
def boot (e : Engine ℓ σ π) : Journaled (Engine ℓ σ π) :=
  within runSpan do
    say .info .engine "Engine starting" []
    e.offer .ready

/-- One step of a running engine. -/
def step (e : Engine ℓ σ π) (s : Step) (now : Instant) : Journaled (Verdict × Engine ℓ σ π) :=
  match s with
  | .command c => within runSpan (e.handle c now)
  | .timeout => within runSpan do return goOn (← e.idle now)
  | .disconnected =>
    within runSpan do
      say .info .engine "Command channel disconnected, shutting down" []
      let (r, e) ← e.stopSession now
      goDown r e []
  | .turn => do
    match e.capture with
    | none => return (.waiting, e)
    | some l => do
      let (l, metrics) ← l.turn e.metrics e.shouldStop now
      return (.waiting, { e with capture := some l, metrics })

end Engine

end Framecast

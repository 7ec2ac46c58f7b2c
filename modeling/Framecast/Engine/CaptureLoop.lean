import Framecast.Engine.Metrics
import Framecast.Engine.Pipeline

/-!
# The capture loop

The loop runs on a thread of its own. Each turn asks the source for one frame and submits it. The
loop ends when it is told to, when the source or the encoder ends, or when an error costs more than
a frame; it breaks down when the source does or when arithmetic overflows, and then lets go of the
pipeline and the source as they are.
-/

namespace Framecast

open Journaled

/-- How often the loop logs its counters. -/
def statusInterval : Duration := .ofSeconds 5 0

/-- How a loop ended. -/
inductive LoopEnd
  /-- It returned, with a reason. -/
  | returned (reason : StopReason)
  /-- It broke down. -/
  | broken
deriving DecidableEq, Repr

/-- A capture loop. -/
structure CaptureLoop (σ π : Type) where
  source : σ
  pipeline : π
  /-- How long it waits for a frame. -/
  interval : Duration
  started : Instant
  /-- When it last logged its counters. -/
  lastStatus : Instant
  /-- Frames that came from the source. -/
  received : Nat := 0
  /-- Frames that an error cost. -/
  dropped : Nat := 0
  /-- How it ended; none while it runs. -/
  ended : Option LoopEnd := none

namespace CaptureLoop

variable {σ π : Type} [FrameSource σ] [Pipeline π]

/-- The thread begins. -/
def launch (launched : Launched σ π) (interval : Duration) (now : Instant) :
    Journaled (CaptureLoop σ π) := do
  say .debug .engine "Capture loop starting" []
  return {
    source := launched.source
    pipeline := launched.pipeline
    interval
    started := now
    lastStatus := now }

/-- The loop returns. -/
def finish (l : CaptureLoop σ π) (reason : StopReason) : Journaled (CaptureLoop σ π) := do
  say .info .engine ("Capture loop stopped: received=" ++ toString l.received ++ ", dropped="
    ++ toString l.dropped ++ ", reason=" ++ reason.message) []
  return { l with ended := some (.returned reason) }

/-- The loop breaks down: pipeline and source go as they are. -/
def breakDown (l : CaptureLoop σ π) : Journaled (CaptureLoop σ π) := do
  Journaled.release .pipeline
  Pipeline.release l.pipeline
  Journaled.release .source
  return { l with ended := some .broken }

/-- A number of seconds with one digit after the point, a tie going to the even one. -/
def secondsText (x : Float32) : String :=
  match Binary.ofFloat32 x with
  | .finite _ m e _ =>
    let t := tenths m e
    toString (t / 10) ++ "." ++ toString (t % 10)
  | _ => "0.0"

/-- Log the counters, if it has been long enough. -/
def logStatus (l : CaptureLoop σ π) (m : Metrics) (now : Instant) :
    Journaled (Except Overflow (CaptureLoop σ π)) :=
  if (now.since l.lastStatus).nanos < statusInterval.nanos then return .ok l
  else
    match m.snapshot now with
    | .error x => return .error x
    | .ok s => do
      say .info .engine ("Session stats: received=" ++ toString l.received ++ ", submitted="
        ++ toString s.framesSubmitted ++ ", repeated=" ++ toString s.repeatedFrames
        ++ ", packets=" ++ toString s.packetsWritten ++ ", write_failures="
        ++ toString s.writeFailures ++ ", uptime="
        ++ secondsText (now.since l.started).toSeconds32 ++ "s") []
      return .ok { l with lastStatus := now }

/-- A submitted frame came back. -/
def settle (l : CaptureLoop σ π) (m : Metrics) (f : CapturedFrame) :
    Except SessionError DrainReport → Journaled (CaptureLoop σ π × Metrics)
  | .ok report => do
    let m := m.recordDrain report
    if report.outcome = .endOfStream then return (← l.finish .endOfStream, m) else return (l, m)
  | .error e => do
    if e.isRecoverable then
      say .warn .engine "Frame dropped"
        [⟨"err", .plain e.message⟩, ⟨"sequence", .nat f.sequence.toNat⟩]
      return ({ l with dropped := l.dropped + 1 }, m)
    else if e.isEndOfStream then return (← l.finish .endOfStream, m)
    else
      say .error .engine "Encoding failed" [⟨"err", .plain e.message⟩]
      return (← l.finish (.encoderError e.message), m)

/-- A frame came from the source: count and submit it. -/
def take (l : CaptureLoop σ π) (m : Metrics) (f : CapturedFrame) :
    Journaled (CaptureLoop σ π × Metrics) := do
  let l := { l with received := l.received + 1 }
  if l.received ≤ 5 ∨ l.received % 100 = 0 then
    say .debug .engine ("Frame received: #" ++ toString l.received ++ ", size="
      ++ sizeText f.width f.height) []
  let m := if f.isNew then m else m.recordRepeated
  call (.submit f)
  let (r, pipeline) ← Pipeline.submit l.pipeline f
  let l := { l with pipeline }
  match r with
  | .error _ => return (← l.breakDown, m)
  | .ok answer => l.settle m f answer

/-- Ask the source for a frame, and deal with the answer. -/
def poll (l : CaptureLoop σ π) (m : Metrics) : Journaled (CaptureLoop σ π × Metrics) := do
  call (.nextFrame l.interval)
  let (polled, source) ← FrameSource.nextFrame l.source l.interval
  let l := { l with source }
  match polled with
  | .frame f => l.take m f
  | .nothing => return (l, m)
  | .failed .stopped => return (← l.finish .userRequested, m)
  | .failed e => do
    say .warn .engine "Frame source lost" [⟨"err", .plain e.message⟩]
    return (← l.finish (.captureLost e.message), m)
  | .broken => return (← l.breakDown, m)

/-- One turn of a loop that runs; told to stop, it returns. -/
def turn (l : CaptureLoop σ π) (m : Metrics) (stop : Bool) (now : Instant) :
    Journaled (CaptureLoop σ π × Metrics) :=
  if l.ended.isSome then return (l, m)
  else if stop then do return (← l.finish .userRequested, m)
  else do
    match ← l.logStatus m now with
    | .error _ => return (← l.breakDown, m)
    | .ok l => l.poll m

end CaptureLoop

end Framecast

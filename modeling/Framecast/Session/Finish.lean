import Framecast.Session.Basic

/-!
# Finishing a session

A session ends in five phases, each announced before its work begins: flush the encoder and drain
it, write the trailer, let go of the encoder, the frame pool and the device context. Every phase
runs, whatever failed before it; the first failure is the answer.
-/

namespace Framecast

open Journaled

/-- Announce a phase of shutdown. -/
def announceEnd (phase : ShutdownPhase) : Journaled Unit := do
  happen (.shutdown phase)
  say .info .session phase.name []

/-- How a session ended; the container is given back as it was left. -/
structure Finished (κ : Type) where
  result : Except Overflow (Except SessionError SessionSummary)
  container : κ

namespace Session

variable {ε κ : Type} [Encoder ε] [Container κ]

/-- Say how the last drain cycle ended. -/
def reportFlush : Except SessionError DrainReport → Journaled Unit
  | .ok report =>
    match report.outcome with
    | .endOfStream => say .debug .session "Encoder drained" [⟨"packets", .nat report.written⟩]
    | .exhausted => say .warn .session "Encoder asked for input after end of input" []
    | .stalled f =>
      say .warn .session "Encoder stalled while flushing" [⟨"fault", .plain f.text⟩]
  | .error e => say .error .session "Failed to flush encoder" [⟨"err", .plain e.message⟩]

/-- Flush the encoder and drain it, unless it has reported end of stream. The answer is the failure,
if there was one. -/
def flush (s : Session ε κ) : Journaled (Except Overflow (Option SessionError) × Session ε κ) := do
  if s.drain.isTerminal then return (.ok none, s)
  else
    let (flushed, bound) ← s.bound.flush
    let s := { s with bound }
    match flushed with
    | .error e => do
      reportFlush (.error (.encoder e))
      return (.ok (some (.encoder e)), s)
    | .ok () => do
      let (r, s) ← s.drainAfter (s.lastPts.getD 0)
      match r with
      | .error x => return (.error x, s)
      | .ok report => do
        reportFlush report
        match report with
        | .error e => return (.ok (some e), s)
        | .ok _ => return (.ok none, s)

/-- Write the trailer. The answer is the failure, if there was one. -/
def endOutput (s : Session ε κ) : Journaled (Option SessionError × κ) := do
  let (answer, container) := Container.writeTrailer s.container
  call (.writeTrailer answer)
  match answer with
  | .ok () => return (none, container)
  | .error f => do
    say .error .session "Failed to write container trailer" [⟨"fault", .plain f.text⟩]
    return (some (.mux (.trailerFailed f)), container)

/-- What the session amounts to, after so long. -/
def summary (s : Session ε κ) (duration : Duration) : SessionSummary :=
  { framesSubmitted := s.bound.framesSent
    packetsWritten := s.drain.packetsWritten
    writeFailures := s.drain.writeFailures
    reachedEndOfStream := s.drain.isTerminal
    duration }

/-- The last three phases: let go of the encoder, the pool and the device context. -/
def releaseBound (b : BoundEncoder ε) : Journaled Unit := do
  announceEnd .releaseEncoder
  Journaled.release .encoder
  announceEnd .releaseFramePool
  let device ← b.pool.intoDevice
  announceEnd .releaseDevice
  device.release

/-- Finish the session. When a timestamp overflows while the encoder is flushed, all that is left is
to let go of everything, the container last. -/
def finish (s : Session ε κ) (now : Instant) : Journaled (Finished κ) :=
  within ⟨"session_finish", []⟩ do
    let duration := now.since s.started
    announceEnd .flushEncoder
    let (flushed, s) ← s.flush
    match flushed with
    | .error x => do
      s.bound.release
      Journaled.release .container
      return ⟨.error x, s.container⟩
    | .ok flushError => do
      announceEnd .writeTrailer
      let (trailerError, container) ← s.endOutput
      Journaled.release .container
      let summary := s.summary duration
      releaseBound s.bound
      say .info .session "Session finished"
        [⟨"frames", .nat summary.framesSubmitted⟩, ⟨"packets", .nat summary.packetsWritten⟩,
          ⟨"write_failures", .nat summary.writeFailures⟩,
          ⟨"duration_secs", .seconds duration.toSeconds32⟩]
      return ⟨.ok (match flushError.or trailerError with
        | some e => .error e
        | none => .ok summary), container⟩

end Session

end Framecast

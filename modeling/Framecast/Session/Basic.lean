import Framecast.Container.Drain
import Framecast.Container.Publish
import Framecast.Encoder.Bound
import Framecast.Session.Error

/-!
# Sessions

A session owns a container, the stream published there, and a bound encoder. Each frame submitted is
stamped with its capture time, handed to the encoder, and followed by a drain cycle. Timestamps
increase: one that does not pass the last frame's is moved one tick behind it.
-/

namespace Framecast

open Journaled

/-- A started session. -/
structure Session (ε κ : Type) where
  container : κ
  stream : OutputStream
  drain : PacketDrain
  bound : BoundEncoder ε
  /-- The presentation time of the last frame the encoder took. -/
  lastPts : Option Int64
  started : Instant

/-- What a session amounted to. -/
structure SessionSummary where
  framesSubmitted : Nat
  packetsWritten : Nat
  writeFailures : Nat
  /-- The encoder gave all it had. -/
  reachedEndOfStream : Bool
  duration : Duration
deriving DecidableEq, Repr

namespace Session

variable {ε κ : Type} [Encoder ε] [Container κ]

/-- Let go of the container, then of the encoder and all it holds. -/
def release (s : Session ε κ) : Journaled Unit := do
  Journaled.release .container
  s.bound.release

/-- The surface of a frame as the encoder sees it. -/
def surface (f : CapturedFrame) (pts : Int64) : SurfaceFrame :=
  { address := f.address
    pitch := f.pitch
    width := f.width
    height := f.height
    format := f.format.pixelFormat
    pts }

/-- The session after the encoder took a frame: drain what it has ready. -/
def drainAfter (s : Session ε κ) (pts : Int64) :
    Journaled (Except Overflow (Except SessionError DrainReport) × Session ε κ) := do
  let d ← s.drain.cycle s.bound.encoder s.bound.config.timeBase s.stream pts s.container
  let s := { s with
    drain := d.drain, container := d.container, bound := { s.bound with encoder := d.encoder } }
  match d.result with
  | .error x => return (.error x, s)
  | .ok (.error e) => return (.ok (.error (.mux e)), s)
  | .ok (.ok report) => return (.ok (.ok report), s)

/-- Hand a frame to the encoder under a timestamp, and write what comes out. -/
def submitAt (s : Session ε κ) (f : CapturedFrame) (pts : Int64) :
    Journaled (Except Overflow (Except SessionError DrainReport) × Session ε κ) := do
  let (r, bound) ← s.bound.submit (surface f pts)
  let s := { s with bound }
  match r with
  | .error e => return (.ok (.error (.encoder e)), s)
  | .ok () => drainAfter { s with lastPts := some pts } pts

/-- Encode a frame and write what comes out. A frame without a usable surface is refused first; once
the encoder has reported end of stream, so is every other frame. -/
def submit (s : Session ε κ) (f : CapturedFrame) :
    Journaled (Except Overflow (Except SessionError DrainReport) × Session ε κ) :=
  match f.isValid with
  | .error x => return (.error x, s)
  | .ok false => return (.ok (.error (.invalidFrame f.sequence)), s)
  | .ok true =>
    if s.drain.isTerminal then return (.ok (.error (.mux .encoderTerminated)), s)
    else
      match nextStamp s.lastPts (s.bound.config.timeBase.ticks f.timestamp.sinceStart) with
      | .error x => return (.error x, s)
      | .ok pts => s.submitAt f pts

end Session

end Framecast

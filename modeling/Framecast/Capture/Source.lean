import Framecast.Journal

/-!
# Frame sources

A source is asked for one frame at a time. It answers with a frame, with nothing if none came in
time, or with an error once there will be no more. It may also break down, which takes whoever asked
with it.
-/

namespace Framecast

/-- What a source answers when asked for a frame. -/
inductive Polled
  | frame (f : CapturedFrame)
  /-- No frame came in time. -/
  | nothing
  | failed (e : CaptureError)
  /-- The source broke down. -/
  | broken
deriving DecidableEq, Repr

/-- A producer of frames. -/
class FrameSource (σ : Type) where
  /-- Pixels in a row, and rows. -/
  dimensions : σ → UInt32 × UInt32
  /-- How its pictures lie in memory. -/
  format : σ → SurfaceFormat
  /-- Wait for the next frame, at most so long. -/
  nextFrame : σ → Duration → Journaled (Polled × σ)
  /-- Produce no more. -/
  stop : σ → Except CaptureError Unit × σ

end Framecast

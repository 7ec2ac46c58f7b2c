import Framecast.Capture.Source
import Framecast.Session.Finish
import Framecast.Session.Start

/-!
# Pipelines and launchers

The engine knows a running session only as a pipeline that takes frames and can be finished, and
gets it, with the source of its frames, from a launcher. Announcements of phases are part of the
journal that a launch or a finish leaves.
-/

namespace Framecast

/-- A running session as the engine sees it. -/
class Pipeline (π : Type) where
  /-- Encode a frame and write what comes out. -/
  submit : π → CapturedFrame →
    Journaled (Except Overflow (Except SessionError DrainReport) × π)
  /-- Flush, end the output and let go of everything. -/
  finish : π → Instant → Journaled (Except Overflow (Except SessionError SessionSummary))
  /-- Let go of everything as it is. -/
  release : π → Journaled Unit

/-- A session is a pipeline. -/
instance {ε κ : Type} [Encoder ε] [Container κ] : Pipeline (Session ε κ) where
  submit := Session.submit
  finish s now := Finished.result <$> s.finish now
  release := Session.release

/-- A pipeline and the source that feeds it. -/
structure Launched (σ π : Type) where
  source : σ
  pipeline : π

/-- A maker of pipelines. -/
class Launcher (ℓ : Type) (σ π : outParam Type) where
  /-- Open a source and start a session for it. -/
  launch : ℓ → SessionConfig → Instant →
    Journaled (Except SessionError (Launched σ π) × ℓ)

end Framecast

import Framecast.Engine.Pipeline

/-!
# Launching sessions

The launcher opens a source of frames, then a container, and starts a session for the frames of that
source. If anything after the source fails, the source is stopped once the session's resources are
gone.
-/

namespace Framecast

open Journaled

/-- What sessions are launched from. Each launch finds its own answers: those of number `n` are for
the launch after `n` others. -/
structure SessionLauncher (ε κ σ : Type) where
  driver : Nat → Driver
  backend : Nat → Backend ε
  openSource : Nat → SessionConfig → Except CaptureError σ
  openContainer : Nat → SessionConfig → Except MuxError κ
  /-- Launches so far. -/
  launches : Nat := 0

namespace SessionLauncher

variable {ε κ σ : Type} [Encoder ε] [Container κ] [FrameSource σ]

/-- The launch failed: stop the source and let go of it. The answer is the failure, whatever the
source says. -/
def abandon (source : σ) (e : SessionError) :
    Journaled (Except SessionError (Launched σ (Session ε κ))) := do
  let (answer, _) := FrameSource.stop source
  call (.stopSource answer)
  match answer with
  | .ok () => pure ()
  | .error x =>
    say .warn .launching "Failed to stop frame source" [⟨"stop_err", .plain x.message⟩]
  Journaled.release .source
  return .error e

/-- Open the container and start the session, once the source is open. -/
def startWith (l : SessionLauncher ε κ σ) (source : σ) (config : SessionConfig) (now : Instant) :
    Journaled (Except SessionError (Launched σ (Session ε κ))) := do
  let (width, height) := FrameSource.dimensions source
  let format := FrameSource.format source
  say .info .launching "Frame source opened"
    [⟨"width", .nat width.toNat⟩, ⟨"height", .nat height.toNat⟩, ⟨"format", .plain format.label⟩]
  let opened := l.openContainer l.launches config
  call (.openContainer config (opened.map fun _ => ()))
  match opened with
  | .error e => abandon source (.mux e)
  | .ok container => do
    let builder := SessionBuilder.mk (l.driver l.launches) (l.backend l.launches) container config
    match ← builder.start width height format now with
    | .session s => return .ok ⟨source, s⟩
    | .failed e _ => abandon source e

/-- Launch a session. -/
def launch (l : SessionLauncher ε κ σ) (config : SessionConfig) (now : Instant) :
    Journaled (Except SessionError (Launched σ (Session ε κ)) × SessionLauncher ε κ σ) := do
  let after := { l with launches := l.launches + 1 }
  let opened := l.openSource l.launches config
  call (.openSource config (opened.map fun _ => ()))
  match opened with
  | .error e => return (.error (.capture e), after)
  | .ok source => return (← l.startWith source config now, after)

/-- A launcher of sessions launches a session as a pipeline. -/
instance : Launcher (SessionLauncher ε κ σ) σ (Session ε κ) where
  launch := launch

end SessionLauncher

end Framecast

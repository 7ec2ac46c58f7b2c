import Framecast.Engine.Launcher
import Framecast.Proofs.Session.Started

/-!
# What launching a session does

A launch opens a source, then a container, and then starts a session for the frames of that source.
It stops at the first of the three that fails, and stops the source and lets go of it if there is
one by then. `LaunchedBy` has one case for each place where it can stop, and `launch_launchedBy`
says that there is no other.
-/

namespace Framecast

open Journaled

variable {ε κ σ : Type} [Encoder ε] [Container κ] [FrameSource σ]

/-- The calls by which a launch that failed stops its source and lets go of it. -/
def quitCalls (source : σ) : List Call :=
  [.stopSource (FrameSource.stop source).1, .release .source]

namespace SessionLauncher

/-- What the session of a launch is to be made of. -/
def builder (l : SessionLauncher ε κ σ) (container : κ) (config : SessionConfig) :
    SessionBuilder ε κ :=
  { driver := l.driver l.launches
    backend := l.backend l.launches
    container
    config }

/-- The session of a launch is started for the frames of a source. -/
abbrev Starts (l : SessionLauncher ε κ σ) (source : σ) (container : κ) (config : SessionConfig)
    (now : Instant) (calls : List Call) (started : Started ε κ) : Prop :=
  (l.builder container config).StartedBy (FrameSource.dimensions source).1
    (FrameSource.dimensions source).2 (FrameSource.format source) now calls started

/-- What a launch does: these calls, and a session with its source or the reason why there is
none. -/
inductive LaunchedBy (l : SessionLauncher ε κ σ) (config : SessionConfig) (now : Instant) :
    List Call → Except SessionError (Launched σ (Session ε κ)) → Prop
  /-- There is no source. -/
  | sourceless {e : CaptureError} (refused : l.openSource l.launches config = .error e) :
      LaunchedBy l config now [.openSource config (.error e)] (.error (.capture e))
  /-- There is no container. -/
  | containerless {source : σ} {e : MuxError}
      (opened : l.openSource l.launches config = .ok source)
      (refused : l.openContainer l.launches config = .error e) :
      LaunchedBy l config now
        (.openSource config (.ok ()) :: .openContainer config (.error e) :: quitCalls source)
        (.error (.mux e))
  /-- The session does not start. -/
  | unstarted {source : σ} {container c : κ} {calls : List Call} {e : SessionError}
      (opened : l.openSource l.launches config = .ok source)
      (given : l.openContainer l.launches config = .ok container)
      (started : l.Starts source container config now calls (.failed e c)) :
      LaunchedBy l config now
        (.openSource config (.ok ()) :: .openContainer config (.ok ()) ::
          calls ++ quitCalls source)
        (.error e)
  /-- There is a session. -/
  | launched {source : σ} {container : κ} {calls : List Call} {s : Session ε κ}
      (opened : l.openSource l.launches config = .ok source)
      (given : l.openContainer l.launches config = .ok container)
      (started : l.Starts source container config now calls (.session s)) :
      LaunchedBy l config now
        (.openSource config (.ok ()) :: .openContainer config (.ok ()) :: calls)
        (.ok ⟨source, s⟩)

omit [Encoder ε] [Container κ] in
/-- A launch that failed stops the source and lets go of it, whatever the source says. -/
theorem abandon_eq (source : σ) (e : SessionError) :
    (abandon source e : Journaled (Except SessionError (Launched σ (Session ε κ)))).calls =
        quitCalls source ∧
      (abandon source e : Journaled (Except SessionError (Launched σ (Session ε κ)))).value =
        .error e := by
  unfold abandon quitCalls
  rcases FrameSource.stop source with ⟨_ | _, _⟩ <;> simp

/-- A launch goes one of these ways. -/
theorem launch_launchedBy (l : SessionLauncher ε κ σ) (config : SessionConfig) (now : Instant) :
    l.LaunchedBy config now (l.launch config now).calls (l.launch config now).value.1 := by
  rcases hs : l.openSource l.launches config with e | source
  · simpa [launch, hs, Except.map] using LaunchedBy.sourceless hs
  rcases hc : l.openContainer l.launches config with e | container
  · obtain ⟨hcalls, hvalue⟩ := abandon_eq (ε := ε) (κ := κ) source (.mux e)
    simpa [launch, startWith, hs, hc, Except.map, hcalls, hvalue] using
      LaunchedBy.containerless hs hc
  have hstarted := (l.builder container config).start_startedBy (FrameSource.dimensions source).1
    (FrameSource.dimensions source).2 (FrameSource.format source) now
  rcases hv : ((l.builder container config).start (FrameSource.dimensions source).1
    (FrameSource.dimensions source).2 (FrameSource.format source) now).value with s | ⟨e, c⟩
  · rw [hv] at hstarted
    have h := LaunchedBy.launched hs hc hstarted
    unfold builder at hv h
    simpa [launch, startWith, hs, hc, hv, Except.map] using h
  · rw [hv] at hstarted
    obtain ⟨hcalls, hvalue⟩ := abandon_eq (ε := ε) (κ := κ) source e
    have h := LaunchedBy.unstarted hs hc hstarted
    unfold builder at hv h
    simpa [launch, startWith, hs, hc, hv, Except.map, hcalls, hvalue] using h

end SessionLauncher

end Framecast

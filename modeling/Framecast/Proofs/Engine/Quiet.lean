import Framecast.Capture.Channel
import Framecast.Proofs.Engine.Acts
import Framecast.Proofs.Session.Announced
import Framecast.Script.Source

/-!
# Quiet sources

A source works for the session, not for the application: what it writes down are lines and notes of
its own (`QuietSource`). With such a source a turn of the loop of a session tells the application
nothing, and asking for a frame is one call.
-/

namespace Framecast

open Journaled

/-- A source that makes no call of its own and tells nobody anything. -/
class QuietSource (σ : Type) extends FrameSource σ where
  /-- Asked for a frame it makes no call. -/
  calls_nextFrame : ∀ s t, (toFrameSource.nextFrame s t).calls = []
  /-- Asked for a frame it announces nothing and offers no event. -/
  tidings_nextFrame : ∀ s t, (toFrameSource.nextFrame s t).tidings = []

attribute [simp] QuietSource.calls_nextFrame QuietSource.tidings_nextFrame

/-- The receiving end of a channel is quiet. -/
instance : QuietSource FrameChannel where
  calls_nextFrame c t := by
    change c.nextFrame.calls = []
    unfold FrameChannel.nextFrame
    repeat' split
    all_goals simp
  tidings_nextFrame c t := by
    change c.nextFrame.tidings = []
    unfold FrameChannel.nextFrame
    repeat' split
    all_goals simp

/-- A scripted source is quiet. -/
instance : QuietSource ScriptedSource where
  calls_nextFrame s t := by
    change (s.nextFrame t).calls = []
    unfold ScriptedSource.nextFrame
    split <;> rfl
  tidings_nextFrame s t := by
    change (s.nextFrame t).tidings = []
    unfold ScriptedSource.nextFrame
    split <;> rfl

section Session

variable {ε κ : Type} [Encoder ε] [Container κ]

/-- Submitting a frame to a session as a pipeline is no tiding. -/
@[simp] theorem tidings_submit_pipeline (s : Session ε κ) (f : CapturedFrame) :
    (Pipeline.submit s f).tidings = [] := s.tidings_submit f

/-- Letting go of a session as a pipeline is no tiding. -/
@[simp] theorem tidings_release_pipeline (s : Session ε κ) : (Pipeline.release s).tidings = [] :=
  s.tidings_release

/-- A session that is finished as a pipeline makes the calls of its end. -/
@[simp] theorem calls_finish_pipeline (s : Session ε κ) (now : Instant) :
    (Pipeline.finish s now).calls = (s.finish now).calls :=
  calls_map _ _

/-- A session that is finished as a pipeline announces the phases of its end, and nothing else. -/
theorem tidings_finish_pipeline (s : Session ε κ) (now : Instant) :
    (Pipeline.finish s now).tidings =
      (Session.endPhases (Pipeline.finish s now).value).map .shutdown := by
  change (Finished.result <$> s.finish now).tidings = _
  rw [tidings_map]
  exact s.tidings_finish now

end Session

namespace CaptureLoop

variable {ε κ σ : Type} [Encoder ε] [Container κ] [QuietSource σ]
  (l : CaptureLoop σ (Session ε κ)) (m : Metrics)

omit [Encoder ε] [Container κ] in
/-- Asking a quiet source for a frame is one call. -/
@[simp] theorem pollCalls_quiet : l.pollCalls = [.nextFrame l.interval] := by
  simp [pollCalls]

omit [QuietSource σ] in
/-- A loop that breaks down tells nothing. -/
@[simp] theorem tidings_breakDown : l.breakDown.tidings = [] := by
  simp [breakDown]

omit [Encoder ε] [Container κ] [QuietSource σ] in
/-- Settling the answer to a frame tells nothing. -/
@[simp] theorem tidings_settle (f : CapturedFrame) (answer : Except SessionError DrainReport) :
    (l.settle m f answer).tidings = [] := by
  rcases answer with e | report
  · simp only [settle]
    split
    · simp
    · split <;> simp [finish]
  · simp only [settle]
    split <;> simp [finish]

omit [QuietSource σ] in
/-- Submitting a frame tells nothing. -/
@[simp] theorem tidings_take (f : CapturedFrame) : (l.take m f).tidings = [] := by
  simp only [take]
  rcases hs : (Pipeline.submit l.pipeline f).value with ⟨x | answer, pipeline⟩
  · split <;> simp [hs]
  · split <;> simp [hs]

/-- Asking for a frame and dealing with the answer tells nothing. -/
@[simp] theorem tidings_poll : (l.poll m).tidings = [] := by
  rcases hp : (FrameSource.nextFrame l.source l.interval).value with ⟨f | _ | e | _, source⟩
  · simp [poll, hp]
  · simp [poll, hp]
  · cases e <;> simp [poll, hp, finish]
  · simp [poll, hp]

/-- A turn of the loop of a session tells nothing. -/
@[simp] theorem tidings_turn (stop : Bool) (now : Instant) :
    (l.turn m stop now).tidings = [] := by
  have hlog : (l.logStatus m now).tidings = [] := by
    unfold logStatus
    split
    · rfl
    · rcases hs : m.snapshot now with x | s <;> simp
  cases he : l.ended with
  | some ended => simp [turn, he]
  | none =>
    cases stop with
    | true => simp [turn, he, finish]
    | false => rcases hv : (l.logStatus m now).value with x | l' <;> simp [turn, he, hlog, hv]

end CaptureLoop

end Framecast

import Framecast.Engine.Pipeline
import Framecast.Script.Source

/-!
# Scripted pipelines

A pipeline and a launcher that answer from a script and note what is asked of them. They put an
engine to work without any session.
-/

namespace Framecast

open Journaled

/-- Nothing came out of the encoder. -/
def DrainReport.empty : DrainReport := ⟨0, 0, 0, .exhausted⟩

/-- A pipeline that follows a script. -/
structure ScriptedPipeline where
  /-- Answers to the next frames; after them, nothing comes out. -/
  submits : List (Except SessionError DrainReport)
  /-- The phases announced when it is finished. -/
  phases : List ShutdownPhase
  /-- The answer when it is finished. -/
  result : Except SessionError SessionSummary

namespace ScriptedPipeline

/-- Let go of it. -/
def release : Journaled Unit := happen (.note "drop pipeline")

/-- Take a frame. -/
def submit (p : ScriptedPipeline) (f : CapturedFrame) :
    Journaled (Except Overflow (Except SessionError DrainReport) × ScriptedPipeline) := do
  happen (.note ("submit " ++ toString f.sequence.toNat))
  match p.submits with
  | [] => return (.ok (.ok .empty), p)
  | r :: submits => return (.ok r, { p with submits })

/-- Announce phases one after the other. -/
def announceAll {α : Type} (f : α → Happening) : List α → Journaled Unit
  | [] => return
  | phase :: phases => do
    happen (f phase)
    announceAll f phases

/-- Finish it. -/
def finish (p : ScriptedPipeline) : Journaled (Except SessionError SessionSummary) := do
  happen (.note "finish")
  announceAll .shutdown p.phases
  release
  return p.result

/-- A scripted pipeline answers as its script says. -/
instance : Pipeline ScriptedPipeline where
  submit := submit
  finish p _ := .ok <$> p.finish
  release _ := release

end ScriptedPipeline

/-- The script of one launch. -/
structure LaunchScript where
  /-- The phases announced. -/
  phases : List StartupPhase
  /-- Why it fails, if it does. -/
  failure : Option SessionError
  /-- The source it opens, or why it cannot. -/
  source : Except CaptureError ScriptedSource
  pipeline : ScriptedPipeline

/-- A launcher that follows a script for each launch; the last script serves all later ones. -/
structure ScriptedLauncher where
  /-- The script of the next launch. -/
  next : LaunchScript
  /-- The scripts of the launches after it. -/
  later : List LaunchScript

namespace ScriptedLauncher

/-- The launcher after a launch. -/
def advance (l : ScriptedLauncher) : ScriptedLauncher :=
  match l.later with
  | [] => l
  | next :: later => ⟨next, later⟩

/-- Launch. -/
def launch (l : ScriptedLauncher) (config : SessionConfig) :
    Journaled (Except SessionError (Launched ScriptedSource ScriptedPipeline)
      × ScriptedLauncher) := do
  happen (.note ("launch " ++ toString config.fps.toNat))
  ScriptedPipeline.announceAll .startup l.next.phases
  match l.next.failure with
  | some e => return (.error e, l.advance)
  | none => do
    call (.openSource config (l.next.source.map fun _ => ()))
    match l.next.source with
    | .error e => return (.error (.capture e), l.advance)
    | .ok source => return (.ok ⟨source, l.next.pipeline⟩, l.advance)

/-- A scripted launcher goes through its scripts one after the other. -/
instance : Launcher ScriptedLauncher ScriptedSource ScriptedPipeline where
  launch l config _ := l.launch config

end ScriptedLauncher

end Framecast

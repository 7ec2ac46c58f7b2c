import Framecast.Capture.Source

/-!
# Scripted sources

A source that answers from a list, and has nothing to offer once the list is used up.
-/

namespace Framecast

open Journaled

/-- What a scripted source answers when asked for a frame. -/
inductive FrameCue
  | polled (p : Polled)
  /-- Note how long it was given, and offer nothing. -/
  | timeout
deriving DecidableEq, Repr

/-- A source that follows a script. -/
structure ScriptedSource where
  width : UInt32
  height : UInt32
  format : SurfaceFormat
  /-- The answers still to be given. -/
  cues : List FrameCue
  /-- The answer when stopped, if it is an error. -/
  stopError : Option CaptureError
deriving Repr

namespace ScriptedSource

/-- Give the next answer. -/
def nextFrame (s : ScriptedSource) (timeout : Duration) : Journaled (Polled × ScriptedSource) :=
  match s.cues with
  | [] => return (.nothing, s)
  | .polled p :: cues => return (p, { s with cues })
  | .timeout :: cues => do
    happen (.note ("timeout " ++ toString timeout.nanos))
    return (.nothing, { s with cues })

/-- Give more answers later. -/
def feed (s : ScriptedSource) (cues : List FrameCue) : ScriptedSource :=
  { s with cues := s.cues ++ cues }

/-- A scripted source answers as its script says. -/
instance : FrameSource ScriptedSource where
  dimensions s := (s.width, s.height)
  format := format
  nextFrame := nextFrame
  stop s := (match s.stopError with
    | none => .ok ()
    | some e => .error e, s)

end ScriptedSource

end Framecast

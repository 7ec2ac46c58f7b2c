import Framecast.Container.Memory
import Framecast.Journal

/-!
# Transcripts

What a rehearsal leaves: the calls that reached the collaborators, one line each; what became of the
containers that were opened; the phases announced; the lines of the log.
-/

namespace Framecast

/-- A resource that is let go, in a transcript. -/
def Resource.label : Resource → String
  | .encoder => "encoder"
  | .framePool => "pool"
  | .container => "container"
  | .source => "source"
  | .pipeline => "pipeline"

/-- The line of a call. Asking for packets or frames leaves none; neither do the calls made of a
pipeline, which notes them itself. -/
def Call.transcript? : Call → Option String
  | .driverInit _ => some "init"
  | .deviceCount _ => some "device_count"
  | .resolveDevice ordinal _ => some ("device " ++ toString ordinal.toNat)
  | .createContext device policy _ =>
    some ("create " ++ toString device.id.toInt ++ " " ++ policy.label)
  | .destroyContext raw _ => some ("destroy " ++ toString raw.address.toNat)
  | .hasEncoder name _ => some ("has " ++ name)
  | .openPool device shape _ =>
    some ("pool device=" ++ toString device.id.toInt ++ " " ++ shape.format.name ++ " "
      ++ shape.layout.name ++ " " ++ sizeText shape.width shape.height)
  | .openEncoder config _ => some ("open " ++ config.encoderName)
  | .sendFrame f _ =>
    some ("send ptr=" ++ toString f.address.toNat ++ " pitch=" ++ toString f.pitch.toNat ++ " "
      ++ sizeText f.width f.height ++ " " ++ f.format.name ++ " pts=" ++ toString f.pts.toInt)
  | .sendEnd _ => some "eof"
  | .openContainer _ _ => some "open container"
  | .writeHeader _ => some "header"
  | .writePacket p _ =>
    some ("write stream=" ++ toString p.stream ++ " pts=" ++ toString p.pts.toInt ++ " dts="
      ++ toString p.dts.toInt ++ " size=" ++ toString p.data.size)
  | .writeTrailer _ => some "trailer"
  | .openSource _ _ => some "open source"
  | .stopSource _ => some "stop source"
  | .release .pipeline => none
  | .release r => some ("drop " ++ r.label)
  | .receive _ | .addStream _ _ | .nextFrame _ | .launch _ | .submit _ | .finish => none

/-- The call is made of a compute driver. -/
def Call.isDriverCall : Call → Bool
  | .driverInit _ | .deviceCount _ | .resolveDevice _ _ | .createContext _ _ _
  | .destroyContext _ _ => true
  | _ => false

/-- Which lines a transcript has. -/
structure Transcript where
  /-- The calls made of a driver. -/
  driver : Bool := true
  /-- The phases announced by an ending session. -/
  phases : Bool := false

/-- The line of a happening. -/
def Transcript.line? (t : Transcript) : Happening → Option String
  | .call c => if c.isDriverCall && !t.driver then none else c.transcript?
  | .shutdown phase => if t.phases then some ("phase " ++ phase.label) else none
  | .note text => some text
  | _ => none

/-- All lines, in order. -/
def Transcript.lines (t : Transcript) (es : List Entry) : List String :=
  es.filterMap fun e => t.line? e.what

/-! ## Other views of a journal -/

/-- What an accepted call does to the containers opened, the last of them first. -/
def Call.replay (cs : List MemoryContainer) (c : Call) : List MemoryContainer :=
  match c, cs with
  | .openContainer _ (.ok ()), cs => {} :: cs
  | .addStream spec (some _), c :: cs => { c with streams := c.streams.push spec } :: cs
  | .writeHeader (.ok ()), c :: cs => { c with headerWritten := true } :: cs
  | .writePacket p (.ok ()), c :: cs => { c with packets := c.packets.push p } :: cs
  | .writeTrailer (.ok ()), c :: cs => { c with trailerWritten := true } :: cs
  | _, cs => cs

/-- The contents of the containers opened, the last one first. -/
def containersAfter (cs : List MemoryContainer) (es : List Entry) : List MemoryContainer :=
  es.foldl (fun cs e => match e.what with
    | .call c => c.replay cs
    | _ => cs) cs

/-- The phases of startup announced. -/
def startupPhases (es : List Entry) : List StartupPhase :=
  es.filterMap fun e => match e.what with
    | .startup phase => some phase
    | _ => none

/-- The phases of shutdown announced. -/
def shutdownPhases (es : List Entry) : List ShutdownPhase :=
  es.filterMap fun e => match e.what with
    | .shutdown phase => some phase
    | _ => none

/-- The lines of the log, each within its spans. -/
def logLines (es : List Entry) : List String :=
  es.filterMap fun e => match e.what with
    | .line l => some (l.render e.spans)
    | _ => none

end Framecast

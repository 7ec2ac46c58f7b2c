import Framecast.Engine.Launcher
import Framecast.Script.Container
import Framecast.Script.Encoder
import Framecast.Script.Field
import Framecast.Script.Pipeline
import Framecast.Script.Source
import Framecast.Script.Transcript

/-!
# The cast of a script

The driver, the encoders, the containers and the sources of a rehearsal, as its script describes
them.
-/

namespace Framecast.Script

/-- A compute driver, by the faults it has for each call. -/
def driver (v : Json) : Driver :=
  if flag false (get "cuda" v) then .missing
  else
    { name := "fake"
      init := unlessFault () (refusal "init" v)
      deviceCount := unlessFault (u32 1 (get "count" v)) (refusal "count_fault" v)
      device := fun _ => unlessFault ⟨i32 (get "handle" v)⟩ (refusal "device" v)
      createContext := fun _ _ =>
        unlessFault ⟨.ofNat (nat 4096 (get "raw" v))⟩ (refusal "create" v)
      destroyContext := fun _ => unlessFault () (refusal "destroy" v) }

/-- What a transcript shows; a driver without a library leaves no lines. -/
def transcript (v : Json) : Transcript :=
  { driver := !flag false (get "cuda" (get "driver" v)) }

/-- Whether an encoder is registered. -/
def hasEncoder (v : Json) (name : String) : Bool :=
  match get "encoders" v with
  | .null => ["h264_nvenc", "hevc_nvenc"].contains name
  | names => ((items names).map (str "")).contains name

/-- What an encoder answers when asked for a packet. -/
def packetCue : Json → PacketCue
  | .string (some "again") => .again
  | .string _ => .endOfStream
  | v => match get "packet" v with
    | .null => .failed (fault v)
    | n => .packet (nat 0 n) (flag false (get "key" v))

/-- An encoder. -/
def encoder (v : Json) (name : String) (extradata : Option ByteArray) : ScriptedEncoder :=
  { name
    extradata
    cues := opt (fun cues => (items cues).map packetCue) (get "steps" v)
    size := nat 6 (get "size" v)
    tail := nat 1 (get "tail" v)
    endsEarly := flag false (get "ends_early" v)
    sending := faults (get "send" v)
    ending := refusal "eof" v }

/-- A library of encoders. -/
def backend (v : Json) : Backend ScriptedEncoder :=
  { hasEncoder := hasEncoder v
    openPool := fun _ shape =>
      unlessFault ((opt pixel (get "pool_format" v)).getD shape.format) (refusal "pool" v)
    openEncoder := fun c =>
      let headers := (opt bytes (get "extradata" v)).or
        (if c.globalHeader then some sampleHeaders else none)
      unlessFault (encoder (get "encoder" v) c.encoderName headers) (refusal "open" v) }

/-- A library of prompt encoders. -/
def promptBackend (v : Json) : Backend PromptEncoder :=
  { hasEncoder := hasEncoder .null
    openPool := fun _ _ => unlessFault .cuda
      (if flag false (get "fail_pool" v) then some ⟨-22, "Invalid argument"⟩ else none)
    openEncoder := fun c => .ok
      { extradata := if c.globalHeader then some sampleHeaders else none
        ended := flag false (get "ends_early" v) } }

/-- A container in memory. -/
def memoryContainer (v : Json) : MemoryContainer :=
  let c := ({} : MemoryContainer).withGlobalHeader (flag false (get "global_header" v))
  let c := (opt (nat 0) (get "max_streams" v)).elim c c.withStreamLimit
  (opt rational (get "muxer_time_base" v)).elim c c.withMuxerTimeBase

/-- A container with faults. -/
def container (v : Json) (reticent : Bool) : ScriptedContainer :=
  { memory := memoryContainer v
    indexOffset := nat 0 (get "index_offset" v)
    reticent
    header := refusal "header" v
    writing := faults (get "write" v)
    trailer := refusal "trailer" v }

/-- What a source answers when asked for a frame. -/
def frameCue (v : Json) : FrameCue :=
  match v with
  | .string (some "none") => .polled .nothing
  | .string (some "timeout") => .timeout
  | .string _ => .polled .broken
  | _ => match get "frame" v with
    | .null => .polled (.failed (captureError (get "error" v)))
    | f => .polled (.frame (frame f))

/-- A source, or why it cannot be opened. -/
def source (v : Json) : Except CaptureError ScriptedSource :=
  match get "open_error" v with
  | .null => .ok
    { width := u32 1920 (get "width" v)
      height := u32 1080 (get "height" v)
      format := format (get "format" v)
      cues := (items (get "items" v)).map frameCue
      stopError := opt captureError (get "stop_error" v) }
  | e => .error (captureError e)

/-- The entry of a list for number `n`; the last one is for all that follow. -/
def entryFor (entries : List Json) (n : Nat) : Json :=
  (entries[min n (entries.length - 1)]?).getD .null

/-- A launcher of sessions. -/
def launcher (v : Json) : SessionLauncher ScriptedEncoder ScriptedContainer ScriptedSource :=
  let entry := entryFor (items (get "launches" v))
  { driver := fun _ => driver (get "driver" v)
    backend := fun _ => backend (get "backend" v)
    openSource := fun n _ => source (get "source" (entry n))
    openContainer := fun n c =>
      let spec := get "container" (entry n)
      match get "open_error" spec with
      | .null => .ok (container spec false)
      | f => .error (.openFailed c.outputUrl (fault f)) }

/-- What a scripted pipeline answers when it is finished. -/
def summary (v : Json) : Except SessionError SessionSummary :=
  match get "error" v with
  | .null => .ok ⟨nat 0 (get "frames_submitted" v), nat 0 (get "packets_written" v),
    nat 0 (get "write_failures" v), flag false (get "reached_end_of_stream" v), .zero⟩
  | e => .error (sessionError e)

/-- A scripted pipeline. -/
def pipeline (v : Json) : ScriptedPipeline :=
  { submits := (items (get "submits" v)).map fun r =>
      match get "error" r with
      | .null => .ok (report r)
      | e => .error (sessionError e)
    phases := (items (get "phases" (get "finish" v))).filterMap ShutdownPhase.ofJson?
    result := summary (get "finish" v) }

/-- The script of one launch. -/
def launch (v : Json) : LaunchScript :=
  { phases := (items (get "phases" v)).map startup
    failure := opt sessionError (get "launch_error" v)
    source := source (get "source" v)
    pipeline := pipeline v }

/-- A scripted launcher. -/
def scriptedLauncher (v : Json) : ScriptedLauncher :=
  match (items (get "launches" v)).map launch with
  | [] => ⟨launch .null, []⟩
  | l :: ls => ⟨l, ls⟩

end Framecast.Script

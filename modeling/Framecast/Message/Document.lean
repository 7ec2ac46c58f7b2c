import Framecast.Json.Printer
import Framecast.Json.Reading
import Framecast.Message.Basic

/-!
# Messages as documents

Each message has one written form, and each reader takes that form back. A choice without content is
its name; one with content is an object whose only member has the name of the choice. Rates are the
only numbers that are not integers; how they are written is left to the caller, since a document
rounds them to their shortest decimal and has nothing for a rate that is not finite.
-/

namespace Framecast

open Json

/-- A rate in a document: its shortest decimal, or `null`. -/
def documentRate (r : Rate) : Json :=
  match Numeral.Style.document.shortest? r.toBinary with
  | some n => .number n
  | none => .null

/-! ## Writing -/

/-- A tier is its name. -/
def Tier.toJson (t : Tier) : Json := .text t.name

/-- A family is its name. -/
def Codec.toJson (c : Codec) : Json := .text c.name

/-- A configuration is a record of its five fields. -/
def SessionConfig.toJson (c : SessionConfig) : Json :=
  .struct [("output_url", .text c.outputUrl), ("output_format", .option .text c.outputFormat),
    ("quality", c.quality.toJson), ("codec", c.codec.toJson), ("fps", .nat c.fps.toNat)]

/-- The figures are a record of their ten fields. -/
def SessionStats.toJson (rate : Rate → Json) (s : SessionStats) : Json :=
  .struct [("fps", rate s.fps), ("target_fps", rate s.targetFps),
    ("bitrate_kbps", .nat s.bitrateKbps.toNat),
    ("frames_submitted", .nat s.framesSubmitted.toNat),
    ("repeated_frames", .nat s.repeatedFrames.toNat),
    ("packets_written", .nat s.packetsWritten.toNat),
    ("bytes_written", .nat s.bytesWritten.toNat),
    ("write_failures", .nat s.writeFailures.toNat),
    ("flow_control_stops", .nat s.flowControlStops.toNat),
    ("uptime_seconds", .nat s.uptimeSeconds.toNat)]

/-- A warning is a choice with a record of its figures. -/
def Warning.toJson (rate : Rate → Json) : Warning → Json
  | .packetWriteFailures count =>
    .struct [("PacketWriteFailures", .struct [("count", .nat count.toNat)])]
  | .encoderStalled code => .struct [("EncoderStalled", .struct [("code", .int code.toInt)])]
  | .frameRateBelowTarget fps target =>
    .struct [("FrameRateBelowTarget", .struct [("fps", rate fps), ("target_fps", rate target)])]

/-- A phase of startup is its label. -/
def StartupPhase.toJson (p : StartupPhase) : Json := .text p.label

/-- A phase of shutdown is its label. -/
def ShutdownPhase.toJson (p : ShutdownPhase) : Json := .text p.label

/-- A reason is its name, with its message if it has one. -/
def StopReason.toJson : StopReason → Json
  | .userRequested => .text "UserRequested"
  | .endOfStream => .text "EndOfStream"
  | .captureLost m => .struct [("CaptureLost", .struct [("message", .text m)])]
  | .encoderError m => .struct [("EncoderError", .struct [("message", .text m)])]
  | .fatalError m => .struct [("FatalError", .struct [("message", .text m)])]

/-- A state is its name, with a record of its details if it has any. -/
def SessionState.toJson (rate : Rate → Json) : SessionState → Json
  | .idle => .text "Idle"
  | .starting phase => .struct [("Starting", .struct [("phase", phase.toJson)])]
  | .live config stats =>
    .struct [("Live", .struct [("config", config.toJson), ("stats", stats.toJson rate)])]
  | .stopping reason phase =>
    .struct [("Stopping", .struct [("reason", reason.toJson), ("phase", phase.toJson)])]
  | .error message recoverable =>
    .struct [("Error", .struct [("message", .text message), ("recoverable", .bool recoverable)])]

/-- A command is its name; a start comes with the configuration. -/
def Command.toJson : Command → Json
  | .start config => .struct [("Start", .struct [("config", config.toJson)])]
  | .stop => .text "Stop"
  | .getState => .text "GetState"
  | .shutdown => .text "Shutdown"

/-- An event is its name, with what it tells; figures and warnings are told as they are. -/
def Event.toJson (rate : Rate → Json) : Event → Json
  | .stateChanged previous current =>
    .struct [("StateChanged",
      .struct [("previous", previous.toJson rate), ("current", current.toJson rate)])]
  | .stats s => .struct [("Stats", s.toJson rate)]
  | .warning w => .struct [("Warning", w.toJson rate)]
  | .error recoverable message =>
    .struct [("Error", .struct [("recoverable", .bool recoverable), ("message", .text message)])]
  | .ready => .text "Ready"
  | .shutdown => .text "Shutdown"

/-! ## Reading -/

/-- The tier of that name. -/
def Tier.ofJson? (v : Json) : Option Tier := do
  match ← choice? v with
  | ("low", x) => bare .low x
  | ("medium", x) => bare .medium x
  | ("high", x) => bare .high x
  | _ => none

/-- The family of that name. -/
def Codec.ofJson? (v : Json) : Option Codec := do
  match ← choice? v with
  | ("avc", x) => bare .avc x
  | ("hevc", x) => bare .hevc x
  | _ => none

/-- Missing fields have their defaults. -/
def SessionConfig.ofJson? (v : Json) : Option SessionConfig := do
  match ← fields? ["output_url", "output_format", "quality", "codec", "fps"] v with
  | [url, format, quality, codec, fps] =>
    let d : SessionConfig := {}
    let url ← orDefault d.outputUrl asString? url
    let format ← orDefault d.outputFormat (asOption? asString?) format
    let quality ← orDefault d.quality Tier.ofJson? quality
    let codec ← orDefault d.codec Codec.ofJson? codec
    let fps ← orDefault d.fps asUInt32? fps
    return ⟨url, format, quality, codec, fps⟩
  | _ => none

/-- A rate is any number in the range of double precision. -/
def Rate.ofJson? (v : Json) : Option Rate := (asFloat32? v).map .ofFloat32

/-- All ten fields have to be there. -/
def SessionStats.ofJson? (v : Json) : Option SessionStats := do
  match ← fields? ["fps", "target_fps", "bitrate_kbps", "frames_submitted", "repeated_frames",
      "packets_written", "bytes_written", "write_failures", "flow_control_stops",
      "uptime_seconds"] v with
  | [fps, target, bitrate, frames, repeated, packets, bytes, failures, stops, uptime] =>
    return {
      fps := ← required Rate.ofJson? fps
      targetFps := ← required Rate.ofJson? target
      bitrateKbps := ← required asUInt32? bitrate
      framesSubmitted := ← required asUInt64? frames
      repeatedFrames := ← required asUInt64? repeated
      packetsWritten := ← required asUInt64? packets
      bytesWritten := ← required asUInt64? bytes
      writeFailures := ← required asUInt64? failures
      flowControlStops := ← required asUInt64? stops
      uptimeSeconds := ← required asUInt64? uptime }
  | _ => none

/-- The warning of that name, with all its figures. -/
def Warning.ofJson? (v : Json) : Option Warning := do
  match ← choice? v with
  | ("PacketWriteFailures", some x) =>
    match ← fields? ["count"] x with
    | [count] => return .packetWriteFailures (← required asUInt64? count)
    | _ => none
  | ("EncoderStalled", some x) =>
    match ← fields? ["code"] x with
    | [code] => return .encoderStalled (← required asInt32? code)
    | _ => none
  | ("FrameRateBelowTarget", some x) =>
    match ← fields? ["fps", "target_fps"] x with
    | [fps, target] =>
      let fps ← required Rate.ofJson? fps
      let target ← required Rate.ofJson? target
      return .frameRateBelowTarget fps target
    | _ => none
  | _ => none

/-- The phase of startup with that label. -/
def StartupPhase.ofJson? (v : Json) : Option StartupPhase := do
  let (name, x) ← choice? v
  match StartupPhase.all.find? (fun p => p.label = name) with
  | some p => bare p x
  | none => none

/-- The phase of shutdown with that label. -/
def ShutdownPhase.ofJson? (v : Json) : Option ShutdownPhase := do
  let (name, x) ← choice? v
  match ShutdownPhase.all.find? (fun p => p.label = name) with
  | some p => bare p x
  | none => none

/-- A record whose only field is a message. -/
def messageOf? (v : Json) : Option String := do
  match ← fields? ["message"] v with
  | [message] => required asString? message
  | _ => none

/-- The reason of that name, with its message if it needs one. -/
def StopReason.ofJson? (v : Json) : Option StopReason := do
  match ← choice? v with
  | ("UserRequested", x) => bare .userRequested x
  | ("EndOfStream", x) => bare .endOfStream x
  | ("CaptureLost", some x) => return .captureLost (← messageOf? x)
  | ("EncoderError", some x) => return .encoderError (← messageOf? x)
  | ("FatalError", some x) => return .fatalError (← messageOf? x)
  | _ => none

/-- The state of that name, with all its details. -/
def SessionState.ofJson? (v : Json) : Option SessionState := do
  match ← choice? v with
  | ("Idle", x) => bare .idle x
  | ("Starting", some x) =>
    match ← fields? ["phase"] x with
    | [phase] => return .starting (← required StartupPhase.ofJson? phase)
    | _ => none
  | ("Live", some x) =>
    match ← fields? ["config", "stats"] x with
    | [config, stats] =>
      let config ← required SessionConfig.ofJson? config
      let stats ← required SessionStats.ofJson? stats
      return .live config stats
    | _ => none
  | ("Stopping", some x) =>
    match ← fields? ["reason", "phase"] x with
    | [reason, phase] =>
      let reason ← required StopReason.ofJson? reason
      let phase ← required ShutdownPhase.ofJson? phase
      return .stopping reason phase
    | _ => none
  | ("Error", some x) =>
    match ← fields? ["message", "recoverable"] x with
    | [message, recoverable] =>
      let message ← required asString? message
      let recoverable ← required asBool? recoverable
      return .error message recoverable
    | _ => none
  | _ => none

/-- The command of that name; a start needs a configuration. -/
def Command.ofJson? (v : Json) : Option Command := do
  match ← choice? v with
  | ("Start", some x) =>
    match ← fields? ["config"] x with
    | [config] => return .start (← required SessionConfig.ofJson? config)
    | _ => none
  | ("Stop", x) => bare .stop x
  | ("GetState", x) => bare .getState x
  | ("Shutdown", x) => bare .shutdown x
  | _ => none

/-- The event of that name, with all it tells. -/
def Event.ofJson? (v : Json) : Option Event := do
  match ← choice? v with
  | ("StateChanged", some x) =>
    match ← fields? ["previous", "current"] x with
    | [previous, current] =>
      let previous ← required SessionState.ofJson? previous
      let current ← required SessionState.ofJson? current
      return .stateChanged previous current
    | _ => none
  | ("Stats", some x) => return .stats (← SessionStats.ofJson? x)
  | ("Warning", some x) => return .warning (← Warning.ofJson? x)
  | ("Error", some x) =>
    match ← fields? ["recoverable", "message"] x with
    | [recoverable, message] =>
      let recoverable ← required asBool? recoverable
      let message ← required asString? message
      return .error recoverable message
    | _ => none
  | ("Ready", x) => bare .ready x
  | ("Shutdown", x) => bare .shutdown x
  | _ => none

/-! ## Configuration documents -/

/-- Read and validate a configuration document. -/
def SessionConfig.ofText (text : String) : Except ConfigError SessionConfig :=
  match (parse? text).bind SessionConfig.ofJson? with
  | none => .error .malformed
  | some config => do
    config.validate
    return config

/-- Read and validate the configuration in a file, given by its bytes if there is one. -/
def SessionConfig.ofFile (file : Option ByteArray) : Except ConfigError SessionConfig :=
  match file with
  | none => .error .notFound
  | some bytes =>
    match String.fromUTF8? bytes with
    | none => .error .notText
    | some text => SessionConfig.ofText text

end Framecast

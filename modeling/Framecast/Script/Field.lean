import Framecast.Capture.Frame
import Framecast.Container.Drain
import Framecast.Message.Document
import Framecast.Session.Error

/-!
# The fields of a script

A script is a JSON document. Every field has a default, which also stands for a value of the wrong
kind; a missing field and `null` are the same. Byte strings and the bits of rates are written in
hexadecimal, durations as seconds and nanoseconds, fractions as two integers.
-/

namespace Framecast.Script

/-! ## Fields -/

/-- The field called `k`, or `null`. -/
def get (k : String) : Json → Json
  | .object ms => (Json.member? k ms).getD .null
  | _ => .null

/-- The items of a list; none if it is anything else. -/
def items : Json → List Json
  | .array vs => vs
  | _ => []

/-- Nothing for `null`, otherwise what `f` reads. -/
def opt {α : Type} (f : Json → α) : Json → Option α
  | .null => none
  | v => some (f v)

/-- A natural number below `2^64`. -/
def nat (d : Nat) (v : Json) : Nat := (v.asNat? UInt64.size).getD d

/-- An integer. -/
def int : Json → Int
  | .number n => n.toInt?.getD 0
  | _ => 0

/-- A string. -/
def str (d : String) (v : Json) : String := v.asString?.getD d

/-- A boolean. -/
def flag (d : Bool) (v : Json) : Bool := v.asBool?.getD d

/-- An unsigned 32-bit integer. -/
def u32 (d : Nat) (v : Json) : UInt32 := .ofNat (nat d v)

/-- An unsigned 64-bit integer. -/
def u64 (v : Json) : UInt64 := .ofNat (nat 0 v)

/-- A signed 32-bit integer. -/
def i32 (v : Json) : Int32 := .ofInt (int v)

/-- A signed 64-bit integer. -/
def i64 (v : Json) : Int64 := .ofInt (int v)

/-- The values of the hexadecimal digits of a string. -/
def hexDigits (v : Json) : List Nat := (str "" v).toList.filterMap Json.hexValue?

/-- The bytes that pairs of hexadecimal digits stand for. -/
def bytesOf : List Nat → List UInt8
  | a :: b :: ds => UInt8.ofNat (16 * a + b) :: bytesOf ds
  | _ => []

/-- A byte string. -/
def bytes (v : Json) : ByteArray := ⟨(bytesOf (hexDigits v)).toArray⟩

/-- A rate, given by its bits. -/
def rate (v : Json) : Rate :=
  ⟨.ofNat ((hexDigits v).foldl (fun n d => 16 * n + d) 0)⟩

/-! ## Values -/

/-- A fault. -/
def fault (v : Json) : Fault := ⟨i32 (get "code" v), str "" (get "message" v)⟩

/-- The fault in the field called `k`, if there is one. -/
def refusal (k : String) (v : Json) : Option Fault := opt fault (get k v)

/-- A list of faults, with nothing for success. -/
def faults (v : Json) : List (Option Fault) := (items v).map (opt fault)

/-- A fraction. -/
def rational (v : Json) : Rational :=
  match items v with
  | [a, b] => ⟨i32 a, i32 b⟩
  | _ => .unset

/-- A duration. -/
def duration (v : Json) : Duration :=
  match items v with
  | [s, n] => .ofSeconds (nat 0 s) (nat 0 n)
  | _ => .zero

/-- A quality tier. -/
def tier (v : Json) : Tier := (Tier.ofJson? v).getD .medium

/-- A codec family. -/
def codec (v : Json) : Codec := (Codec.ofJson? v).getD .avc

/-- The layout of a captured picture. -/
def format (v : Json) : SurfaceFormat := if str "" v = "nv12" then .nv12 else .bgra

/-- The format of a surface. -/
def pixel (v : Json) : PixelFormat :=
  match str "" v with
  | "cuda" => .cuda
  | "nv12" => .nv12
  | _ => .bgr0

/-- A phase of startup. -/
def startup (v : Json) : StartupPhase := (StartupPhase.ofJson? v).getD .acquireDevice

/-- A width and a height. -/
def sizePair (v : Json) : UInt32 × UInt32 :=
  match items v with
  | [a, b] => (u32 0 a, u32 0 b)
  | _ => (0, 0)

/-- Why a source has no more frames. -/
def captureError (v : Json) : CaptureError :=
  match str "" (get "kind" v) with
  | "lost" => .sourceLost (str "" (get "message" v))
  | "stopped" => .stopped
  | _ => .disconnected

/-- Why a session fails. -/
def sessionError (v : Json) : SessionError :=
  let phase := startup (get "phase" v)
  let f := fault (get "fault" v)
  let r := rational (get "time_base" v)
  match str "" (get "kind" v) with
  | "config" => .config (.invalid (.because (str "" (get "message" v))))
  | "startup_gpu" => .startup phase (.device (.init f))
  | "startup_encoder" => .startup phase (.encoder (.poolFailed f))
  | "startup_mux" => .startup phase (.mux (.invalidTimeBase r))
  | "backend" => .backend f
  | "send" => .encoder (.sendFailed f)
  | "flushed" => .encoder .alreadyFlushed
  | "resolution" =>
    .encoder (.resolutionChanged (sizePair (get "expected" v)) (sizePair (get "actual" v)))
  | "format" => .encoder (.formatMismatch (pixel (get "expected" v)) (pixel (get "actual" v)))
  | "time_base" => .mux (.invalidTimeBase r)
  | "trailer" => .mux (.trailerFailed f)
  | "terminated" => .mux .encoderTerminated
  | "capture" => .capture (captureError (get "capture" v))
  | _ => .invalidFrame (u64 (get "sequence" v))

/-- What a drain cycle did. -/
def report (v : Json) : DrainReport :=
  ⟨nat 0 (get "written" v), nat 0 (get "bytes" v), nat 0 (get "write_failures" v),
    match get "outcome" v with
    | .string (some "eof") => .endOfStream
    | o => match get "stalled" o with
      | .null => .exhausted
      | f => .stalled (fault f)⟩

/-- The configuration of a session. -/
def config (v : Json) : SessionConfig :=
  let d : SessionConfig := {}
  { outputUrl := str d.outputUrl (get "output_url" v)
    outputFormat := opt (str "") (get "output_format" v)
    quality := tier (get "quality" v)
    codec := codec (get "codec" v)
    fps := u32 d.fps.toNat (get "fps" v) }

/-- What an encoder is wanted for. -/
def request (v : Json) : EncoderRequest :=
  { tier := tier (get "tier" v)
    width := u32 1920 (get "width" v)
    height := u32 1080 (get "height" v)
    fps := u32 60 (get "fps" v)
    family := codec (get "family" v)
    globalHeader := flag false (get "global_header" v) }

/-- A captured frame. -/
def frame (v : Json) : CapturedFrame :=
  let f : CapturedFrame :=
    { address := u64 (get "ptr" v)
      pitch := u32 0 (get "pitch" v)
      width := u32 0 (get "width" v)
      height := u32 0 (get "height" v)
      format := format (get "format" v)
      isNew := true
      timestamp := ⟨⟨0⟩, duration (get "at" v)⟩
      sequence := u64 (get "seq" v) }
  if flag true (get "new" v) then f else f.repeated

/-- A surface on its way to an encoder. -/
def surface (v : Json) : SurfaceFrame :=
  { address := u64 (get "ptr" v)
    pitch := u32 0 (get "pitch" v)
    width := u32 0 (get "width" v)
    height := u32 0 (get "height" v)
    format := pixel (get "format" v)
    pts := i64 (get "pts" v) }

end Framecast.Script

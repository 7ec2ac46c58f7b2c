import Framecast.Capture.Frame
import Framecast.Device.Basic
import Framecast.Message.Config
import Framecast.Time.Rational

/-!
# Hardware encoders

An encoder takes frames from a pool of device surfaces and gives packets, some time later. The class
`Encoder` describes one by its answers. A packet received leaves less for it to deliver, so that an
encoder which is given no more frames runs out of packets.
-/

namespace Framecast

/-- What a surface holds. -/
inductive PixelFormat
  /-- Opaque to the host; the real layout is that of the pool. -/
  | cuda
  /-- Four bytes a pixel: blue, green, red, unused. -/
  | bgr0
  /-- A plane of luma, then one of chroma at half resolution. -/
  | nv12
deriving DecidableEq, Repr

namespace PixelFormat

/-- The format names a device surface and no memory layout. -/
def isHardware : PixelFormat → Bool
  | cuda => true
  | _ => false

/-- The name in logs. -/
def name : PixelFormat → String
  | cuda => "cuda"
  | bgr0 => "bgr0"
  | nv12 => "nv12"

/-- The name in error texts. -/
def label : PixelFormat → String
  | cuda => "Cuda"
  | bgr0 => "Bgr0"
  | nv12 => "Nv12"

end PixelFormat

/-- The layout that an encoder sees in a captured picture. -/
def SurfaceFormat.pixelFormat : SurfaceFormat → PixelFormat
  | .bgra => .bgr0
  | .nv12 => .nv12

/-- The range of encoded samples. -/
inductive ColorRange
  /-- All of 0 to 255. -/
  | jpeg
  /-- 16 to 235. -/
  | mpeg
deriving DecidableEq, Repr

/-- What an encoder is wanted for. -/
structure EncoderRequest where
  tier : Tier
  /-- Pixels in a row of the source. -/
  width : UInt32
  /-- Rows of the source. -/
  height : UInt32
  fps : UInt32
  family : Codec
  /-- Whether the container wants codec headers apart from the packets. -/
  globalHeader : Bool
deriving DecidableEq, Repr

/-- The parameters an encoder is opened with. -/
structure EncoderConfig where
  encoderName : String
  family : Codec
  tier : Tier
  /-- Encoded pixels in a row, always even. -/
  width : UInt32
  /-- Encoded rows, always even. -/
  height : UInt32
  /-- Bits per second. -/
  bitRate : UInt64
  qmin : UInt32
  qmax : UInt32
  /-- Frames from one keyframe to the next. -/
  gopSize : UInt32
  /-- Always zero, so that decoding order is the order of presentation. -/
  maxBFrames : UInt32
  pixelFormat : PixelFormat
  colorRange : ColorRange
  timeBase : Rational
  frameRate : Rational
  sampleAspectRatio : Rational
  globalHeader : Bool
deriving DecidableEq, Repr

/-- The shape of a pool of device surfaces. -/
structure PoolShape where
  /-- What the encoder sees. -/
  format : PixelFormat
  /-- How the capture side writes a surface. -/
  layout : PixelFormat
  width : UInt32
  height : UInt32
deriving DecidableEq, Repr

/-- A surface handed to an encoder with its presentation time. -/
structure SurfaceFrame where
  address : UInt64
  pitch : UInt32
  width : UInt32
  height : UInt32
  format : PixelFormat
  /-- Ticks of the encoder's time base. -/
  pts : Int64
deriving DecidableEq, Repr

/-- Data is compared byte by byte. -/
instance (priority := high) decEqBytes : DecidableEq ByteArray := ByteArray.decEq

/-- A unit of encoded video. -/
structure Packet where
  data : ByteArray
  /-- When to present it. -/
  pts : Int64
  /-- When to decode it. -/
  dts : Int64
  isKeyframe : Bool
  /-- The stream of the container it belongs to. -/
  stream : Nat
deriving DecidableEq

/-- What an encoder answers when asked for its next packet. -/
inductive Received
  | packet (p : Packet)
  /-- Nothing before another frame is sent. -/
  | again
  /-- Nothing ever again. -/
  | endOfStream
  /-- Any other answer. -/
  | failed (fault : Fault)
deriving DecidableEq

/-- An opened encoder. -/
class Encoder (ε : Type) where
  /-- The name of the implementation. -/
  name : ε → String
  /-- Codec headers, apart from the packets. -/
  extradata : ε → Option ByteArray
  /-- Take a frame. -/
  sendFrame : ε → SurfaceFrame → Except Fault Unit × ε
  /-- Take note that no frame will follow. -/
  sendEnd : ε → Except Fault Unit × ε
  /-- Give the next packet. -/
  receive : ε → Received × ε
  /-- An upper bound on the packets it can give without another frame. -/
  backlog : ε → Nat
  /-- A packet given is one less to give. -/
  backlog_receive : ∀ e p e', receive e = (.packet p, e') → backlog e' < backlog e

/-- A library of encoders, by what it answers to each call of a session. -/
structure Backend (ε : Type) where
  /-- Whether an implementation is registered. -/
  hasEncoder : String → Bool
  /-- A new pool on the device, answered with the format that it got. -/
  openPool : DeviceHandle → PoolShape → Except Fault PixelFormat
  /-- An encoder fed from the pool. -/
  openEncoder : EncoderConfig → Except Fault ε

/-- Why a frame or a configuration does not reach an encoder. -/
inductive EncoderError
  | unavailable (family : Codec) (tried : List String)
  | invalidGeometry (width height fps : UInt32)
  | poolFailed (fault : Fault)
  | openFailed (name : String) (fault : Fault)
  | formatMismatch (expected actual : PixelFormat)
  | resolutionChanged (expected actual : UInt32 × UInt32)
  | sendFailed (fault : Fault)
  | alreadyFlushed
deriving DecidableEq, Repr

/-- A size in words. -/
def sizeText (width height : UInt32) : String :=
  toString width.toNat ++ "x" ++ toString height.toNat

namespace EncoderError

/-- The error in words. -/
def message : EncoderError → String
  | unavailable family tried =>
    "No hardware encoder available for " ++ family.label ++ " (tried "
      ++ ", ".intercalate tried ++ ")"
  | invalidGeometry w h fps =>
    "Invalid encoder geometry: " ++ sizeText w h ++ " at " ++ toString fps.toNat ++ " fps"
  | poolFailed f => "Frame pool initialization failed: " ++ f.text
  | openFailed name f => "Failed to open encoder " ++ name ++ ": " ++ f.text
  | formatMismatch expected actual =>
    "Pixel format mismatch: expected " ++ expected.label ++ ", got " ++ actual.label
  | resolutionChanged expected actual =>
    "Resolution changed from " ++ sizeText expected.1 expected.2 ++ " to "
      ++ sizeText actual.1 actual.2
  | sendFailed f => "Failed to submit frame: " ++ f.text
  | alreadyFlushed => "Encoder already flushed"

/-- The session can go on after this error: only a frame that the encoder refused is lost. -/
def isRecoverable : EncoderError → Bool
  | sendFailed _ => true
  | _ => false

end EncoderError

end Framecast

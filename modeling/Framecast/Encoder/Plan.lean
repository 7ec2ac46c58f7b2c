import Framecast.Journal

/-!
# Encoder parameters

From a quality tier, a frame size and a frame rate follow all parameters of an encoder. Sizes are
rounded down to even ones. The bit rate is a floor that depends on the tier, and half a bit per
second for each encoded pixel. Of the implementations of a codec the first registered one is taken.
-/

namespace Framecast

open Journaled

/-- The implementations of a family, the most preferred first. -/
def Codec.candidates : Codec → List String
  | .avc => ["h264_nvenc", "nvenc_h264"]
  | .hevc => ["hevc_nvenc", "nvenc_hevc"]

/-- The first of the names that is registered, each being looked up in turn. -/
def firstRegistered (has : String → Bool) : List String → Journaled (Option String)
  | [] => return none
  | name :: names => do
    call (.hasEncoder name (has name))
    if has name then
      say .debug .plan "Selected encoder implementation" [⟨"encoder", .quoted name⟩]
      return some name
    else
      say .debug .plan "Encoder implementation not registered" [⟨"encoder", .quoted name⟩]
      firstRegistered has names

/-- Choose an implementation of a family. -/
def selectEncoder (has : String → Bool) (family : Codec) :
    Journaled (Except EncoderError String) := do
  match ← firstRegistered has family.candidates with
  | some name => return .ok name
  | none => do
    say .warn .plan "No hardware encoder registered" [⟨"family", .quoted family.name⟩]
    return .error (.unavailable family family.candidates)

/-- Rate control of a tier. -/
structure TierProfile where
  /-- Bits per second, before the share of the pixels. -/
  bitRateFloor : UInt64
  qmin : UInt32
  qmax : UInt32
deriving DecidableEq, Repr

/-- Rate control of a tier, for a family. -/
def Tier.profile : Tier → Codec → TierProfile
  | .low, .avc => ⟨10000000, 5, 20⟩
  | .low, .hevc => ⟨10000000, 20, 35⟩
  | .medium, .avc => ⟨12500000, 5, 15⟩
  | .medium, .hevc => ⟨12500000, 17, 30⟩
  | .high, .avc => ⟨15000000, 3, 13⟩
  | .high, .hevc => ⟨15000000, 16, 25⟩

/-- The greatest even number at or below `n`. -/
def evenFloor (n : UInt32) : UInt32 := n - n % 2

/-- The parameters for a request, with the implementation chosen. -/
def EncoderRequest.plan (r : EncoderRequest) (encoderName : String) : EncoderConfig :=
  let profile := r.tier.profile r.family
  let width := evenFloor r.width
  let height := evenFloor r.height
  { encoderName
    family := r.family
    tier := r.tier
    width
    height
    bitRate := profile.bitRateFloor + width.toUInt64 * height.toUInt64 / 2
    qmin := profile.qmin
    qmax := profile.qmax
    gopSize := r.fps * 2
    maxBFrames := 0
    pixelFormat := .cuda
    colorRange := .jpeg
    timeBase := .microsecond
    frameRate := ⟨r.fps.toInt32, 1⟩
    sampleAspectRatio := .unset
    globalHeader := r.globalHeader }

/-- The size is at least two by two, and the frame rate is positive and fits a fraction. -/
def EncoderRequest.isUsable (r : EncoderRequest) : Bool :=
  0 < evenFloor r.width && 0 < evenFloor r.height && 0 < r.fps && r.fps ≤ Int32.maxValue.toUInt32

/-- Find the parameters for a request. An unusable request is refused before any implementation is
looked up. -/
def configure (has : String → Bool) (r : EncoderRequest) :
    Journaled (Except EncoderError EncoderConfig) :=
  within ⟨"configure_encoder",
      [⟨"tier", .quoted r.tier.name⟩, ⟨"family", .quoted r.family.name⟩]⟩ do
    if r.isUsable then
      match ← selectEncoder has r.family with
      | .error e => return .error e
      | .ok name => do
        let config := r.plan name
        say .debug .plan "Encoder configured"
          [⟨"encoder", .quoted name⟩, ⟨"width", .nat config.width.toNat⟩,
            ⟨"height", .nat config.height.toNat⟩, ⟨"bit_rate", .nat config.bitRate.toNat⟩,
            ⟨"qmin", .nat config.qmin.toNat⟩, ⟨"qmax", .nat config.qmax.toNat⟩,
            ⟨"gop", .nat config.gopSize.toNat⟩, ⟨"global_header", .bool config.globalHeader⟩]
        return .ok config
    else return .error (.invalidGeometry r.width r.height r.fps)

end Framecast

import Framecast.Time.Duration

/-!
# Captured frames

A frame is a picture in device memory with the moment it was taken. Its pitch, the distance between
rows in bytes, has to hold a row.
-/

namespace Framecast

/-- The memory layout of a captured picture. -/
inductive SurfaceFormat
  /-- Four bytes a pixel: blue, green, red, unused. -/
  | bgra
  /-- A plane of luma, then one of chroma at half resolution. -/
  | nv12
deriving DecidableEq, Repr

/-- The layout by name. -/
def SurfaceFormat.label : SurfaceFormat → String
  | .bgra => "Bgra"
  | .nv12 => "Nv12"

/-- When a frame was taken. -/
structure CaptureTimestamp where
  /-- The moment itself. -/
  captureTime : Instant
  /-- The time since capture started. -/
  sinceStart : Duration
deriving DecidableEq, Repr

namespace CaptureTimestamp

/-- A frame taken now, by the clock. -/
def taken (start now : Instant) : CaptureTimestamp := ⟨now, now.since start⟩

/-- A frame taken `d` after the start. -/
def offset (start : Instant) (d : Duration) : Except Overflow CaptureTimestamp := do
  return ⟨← start.after d, d⟩

/-- Microseconds since capture started, as far as 64 bits hold them. -/
def micros (t : CaptureTimestamp) : UInt64 := UInt64.ofNat t.sinceStart.micros

end CaptureTimestamp

/-- A captured frame. -/
structure CapturedFrame where
  /-- The address of the first row. -/
  address : UInt64
  /-- Bytes from one row to the next. -/
  pitch : UInt32
  /-- Pixels in a row. -/
  width : UInt32
  /-- Rows. -/
  height : UInt32
  /-- How the picture lies in memory. -/
  format : SurfaceFormat
  /-- Whether the picture differs from the one before. -/
  isNew : Bool
  /-- When it was taken. -/
  timestamp : CaptureTimestamp
  /-- Its number in the stream. -/
  sequence : UInt64
deriving DecidableEq, Repr

namespace CapturedFrame

/-- The same frame, as a repeat of the picture before. -/
def repeated (f : CapturedFrame) : CapturedFrame := { f with isNew := false }

/-- The least pitch that holds a row. -/
def minPitch (f : CapturedFrame) : Except Overflow UInt32 :=
  match f.format with
  | .bgra =>
    if f.width.toNat * 4 < UInt32.size then .ok (f.width * 4) else .error .multiplication
  | .nv12 => .ok f.width

/-- There is a surface, and its pitch holds a row. -/
def isValid (f : CapturedFrame) : Except Overflow Bool :=
  if f.address = 0 then .ok false
  else do return decide ((← f.minPitch) ≤ f.pitch)

end CapturedFrame

/-- Why a source has no more frames. -/
inductive CaptureError
  | sourceLost (message : String)
  | stopped
  | disconnected
deriving DecidableEq, Repr

/-- The error in words. -/
def CaptureError.message : CaptureError → String
  | .sourceLost m => "Capture source lost: " ++ m
  | .stopped => "Capture stopped"
  | .disconnected => "Frame channel disconnected"

end Framecast

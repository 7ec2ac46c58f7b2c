import Framecast.Device.Context
import Framecast.Encoder.Plan

/-!
# Encoders bound to a frame pool

Binding creates a pool of surfaces on the device and opens the encoder on it. What is bound is let
go in reverse order: the encoder, then its pool, then the device context that the pool kept. When
binding fails, what it had by then goes the same way.
-/

namespace Framecast

open Journaled

/-- A pool of device surfaces. It keeps the device context. -/
structure FramePool where
  shape : PoolShape
  /-- The format the pool got. -/
  format : PixelFormat
  device : DeviceContext

/-- Let go of the pool; the device context remains. -/
def FramePool.intoDevice (p : FramePool) : Journaled DeviceContext := do
  Journaled.release .framePool
  return p.device

/-- Let go of the pool and of the device context. -/
def FramePool.release (p : FramePool) : Journaled Unit := do
  let device ← p.intoDevice
  device.release

/-- An opened encoder with the pool that feeds it. -/
structure BoundEncoder (ε : Type) where
  encoder : ε
  pool : FramePool
  config : EncoderConfig
  /-- The end of input has been signalled. -/
  flushed : Bool
  /-- Frames the encoder took. -/
  framesSent : Nat

/-- What is bound, or why nothing is; the device context of a pool that never came to be is still to
be let go. -/
inductive BindResult (ε : Type)
  | bound (b : BoundEncoder ε)
  | failed (e : EncoderError)
  | noPool (e : EncoderError)

variable {ε : Type} [Encoder ε]

/-- Create the pool and open the encoder, within their span. -/
def Backend.tryBind (b : Backend ε) (device : DeviceContext) (config : EncoderConfig)
    (native : PixelFormat) : Journaled (BindResult ε) :=
  within ⟨"bind_encoder",
      [⟨"encoder", .quoted config.encoderName⟩, ⟨"width", .nat config.width.toNat⟩,
        ⟨"height", .nat config.height.toNat⟩]⟩ do
    if native.isHardware then return .noPool (.formatMismatch .bgr0 native)
    else
    let shape : PoolShape := ⟨config.pixelFormat, native, config.width, config.height⟩
    let opened := b.openPool device.device shape
    call (.openPool device.device shape opened)
    match opened with
    | .error f => do
      say .error .binding "Frame pool initialization failed" [⟨"fault", .plain f.text⟩]
      return .noPool (.poolFailed f)
    | .ok format => do
    let pool : FramePool := ⟨shape, format, device⟩
    if format ≠ config.pixelFormat then
      say .error .binding "Frame pool format does not match the encoder"
        [⟨"expected", .quoted config.pixelFormat.name⟩, ⟨"actual", .quoted format.name⟩]
      pool.release
      return .failed (.formatMismatch config.pixelFormat format)
    else
    say .debug .binding "Frame pool initialized" [⟨"sw_format", .quoted native.name⟩]
    let encoder := b.openEncoder config
    call (.openEncoder config (encoder.map fun _ => ()))
    match encoder with
    | .error f => do
      say .error .binding "Encoder open failed" [⟨"fault", .plain f.text⟩]
      pool.release
      return .failed (.openFailed config.encoderName f)
    | .ok encoder => do
    say .info .binding "Encoder opened"
      [⟨"encoder", .quoted (Encoder.name encoder)⟩, ⟨"bit_rate", .nat config.bitRate.toNat⟩]
    return .bound ⟨encoder, pool, config, false, 0⟩

/-- Create a pool on the device and open the encoder on it. The captured pictures have the layout
`native`. On failure nothing remains, the device context included. -/
def Backend.bind (b : Backend ε) (device : DeviceContext) (config : EncoderConfig)
    (native : PixelFormat) : Journaled (Except EncoderError (BoundEncoder ε)) := do
  match ← b.tryBind device config native with
  | .bound bound => return .ok bound
  | .failed e => return .error e
  | .noPool e => do
    device.release
    return .error e

namespace BoundEncoder

/-- Hand a frame to the encoder. A frame of another size, rounded down to even, or of another layout
does not reach it. -/
def submit (b : BoundEncoder ε) (frame : SurfaceFrame) :
    Journaled (Except EncoderError Unit × BoundEncoder ε) := do
  let shape := b.pool.shape
  if b.flushed then return (.error .alreadyFlushed, b)
  else if evenFloor frame.width ≠ shape.width ∨ evenFloor frame.height ≠ shape.height then
    say .error .binding "Source resolution changed"
      [⟨"expected_width", .nat shape.width.toNat⟩, ⟨"expected_height", .nat shape.height.toNat⟩,
        ⟨"width", .nat frame.width.toNat⟩, ⟨"height", .nat frame.height.toNat⟩]
    return (.error (.resolutionChanged (shape.width, shape.height) (frame.width, frame.height)), b)
  else if frame.format ≠ shape.layout then
    return (.error (.formatMismatch shape.layout frame.format), b)
  else
    let (answer, encoder) := Encoder.sendFrame b.encoder frame
    call (.sendFrame frame answer)
    match answer with
    | .error f => return (.error (.sendFailed f), { b with encoder })
    | .ok () => return (.ok (), { b with encoder, framesSent := b.framesSent + 1 })

/-- Signal the end of input, unless that has been done. -/
def flush (b : BoundEncoder ε) : Journaled (Except EncoderError Unit × BoundEncoder ε) := do
  if b.flushed then return (.ok (), b)
  else
    let (answer, encoder) := Encoder.sendEnd b.encoder
    call (.sendEnd answer)
    match answer with
    | .error f => return (.error (.sendFailed f), { b with encoder })
    | .ok () => do
      say .debug .binding "Encoder flushed" [⟨"frames", .nat b.framesSent⟩]
      return (.ok (), { b with encoder, flushed := true })

/-- Ask for the next packet. -/
def receive (b : BoundEncoder ε) : Journaled (Received × BoundEncoder ε) := do
  let (answer, encoder) := Encoder.receive b.encoder
  call (.receive answer)
  return (answer, { b with encoder })

/-- Let go of the encoder, its pool and the device context. -/
def release (b : BoundEncoder ε) : Journaled Unit := do
  Journaled.release .encoder
  b.pool.release

end BoundEncoder

end Framecast

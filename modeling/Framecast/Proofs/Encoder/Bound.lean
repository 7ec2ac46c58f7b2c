import Framecast.Encoder.Bound
import Framecast.Proofs.Encoder.Plan

/-!
# What acquiring, binding and feeding an encoder does

`AcquiredBy` and `BoundBy` list the ways in which a context is acquired and an encoder is bound to a
pool on it, each with its calls: what a failed binding had taken by then it gives back, the device
context included. A bound encoder is fed with frames and flushed by one call each.
-/

namespace Framecast

open Journaled

/-! ## The device context -/

/-- The ways a context is acquired: not at all, for one of five reasons, or on the first device. -/
inductive Driver.AcquiredBy (d : Driver) : List Call → Except DeviceError DeviceContext → Prop
  /-- The driver does not get ready. -/
  | unready {f : Fault} (init : d.init = .error f) :
      AcquiredBy d [.driverInit (.error f)] (.error (.init f))
  /-- The devices are not counted. -/
  | uncounted {f : Fault} (init : d.init = .ok ()) (count : d.deviceCount = .error f) :
      AcquiredBy d [.driverInit (.ok ()), .deviceCount (.error f)] (.error (.enumerate f))
  /-- There is no device. -/
  | none (init : d.init = .ok ()) (count : d.deviceCount = .ok 0) :
      AcquiredBy d [.driverInit (.ok ()), .deviceCount (.ok 0)] (.error .noDevice)
  /-- The first device is not found. -/
  | unresolved {n : UInt32} {f : Fault} (init : d.init = .ok ()) (count : d.deviceCount = .ok n)
      (some : n ≠ 0) (device : d.device deviceOrdinal = .error f) :
      AcquiredBy d
        [.driverInit (.ok ()), .deviceCount (.ok n), .resolveDevice deviceOrdinal (.error f)]
        (.error (.select deviceOrdinal f))
  /-- The context is not created. -/
  | uncreated {n : UInt32} {handle : DeviceHandle} {f : Fault} (init : d.init = .ok ())
      (count : d.deviceCount = .ok n) (some : n ≠ 0) (device : d.device deviceOrdinal = .ok handle)
      (created : d.createContext handle .auto = .error f) :
      AcquiredBy d
        [.driverInit (.ok ()), .deviceCount (.ok n), .resolveDevice deviceOrdinal (.ok handle),
          .createContext handle .auto (.error f)]
        (.error (.createContext f))
  /-- The context is created. -/
  | created {n : UInt32} {handle : DeviceHandle} {raw : RawContext} (init : d.init = .ok ())
      (count : d.deviceCount = .ok n) (some : n ≠ 0) (device : d.device deviceOrdinal = .ok handle)
      (created : d.createContext handle .auto = .ok raw) :
      AcquiredBy d
        [.driverInit (.ok ()), .deviceCount (.ok n), .resolveDevice deviceOrdinal (.ok handle),
          .createContext handle .auto (.ok raw)]
        (.ok ⟨d, handle, raw, deviceOrdinal⟩)

/-- A context is acquired in one of these ways. -/
theorem Driver.acquire_acquiredBy (d : Driver) : d.AcquiredBy d.acquire.calls d.acquire.value := by
  -- One split for each question to the driver, in their order.
  rcases hi : d.init with f | u
  · simpa [acquire, hi] using AcquiredBy.unready hi
  rcases hn : d.deviceCount with f | n
  · simpa [acquire, hi, hn] using AcquiredBy.uncounted hi hn
  by_cases hz : n = 0
  · subst hz
    simpa [acquire, hi, hn] using AcquiredBy.none hi hn
  rcases hd : d.device deviceOrdinal with f | handle
  · simpa [acquire, hi, hn, hz, hd] using AcquiredBy.unresolved hi hn hz hd
  rcases hc : d.createContext handle .auto with f | raw
  · simpa [acquire, hi, hn, hz, hd, hc] using AcquiredBy.uncreated hi hn hz hd hc
  · simpa [acquire, hi, hn, hz, hd, hc] using AcquiredBy.created hi hn hz hd hc

/-- Destroying a context is one call, whatever the driver answers. -/
@[simp] theorem DeviceContext.calls_release (c : DeviceContext) :
    c.release.calls = [.destroyContext c.raw (c.driver.destroyContext c.raw)] := by
  unfold DeviceContext.release
  cases h : c.driver.destroyContext c.raw <;> simp

/-- Letting go of a pool keeps its device context. -/
@[simp] theorem FramePool.value_intoDevice (p : FramePool) : p.intoDevice.value = p.device := rfl

/-- Letting go of a pool is one call. -/
@[simp] theorem FramePool.calls_intoDevice (p : FramePool) :
    p.intoDevice.calls = [.release .framePool] := rfl

/-! ## Binding -/

variable {ε : Type} [Encoder ε]

/-- The pool that frames of a layout need for an encoder. -/
def EncoderConfig.poolShape (config : EncoderConfig) (native : PixelFormat) : PoolShape :=
  ⟨config.pixelFormat, native, config.width, config.height⟩

/-- The ways an encoder is bound to a pool on a device: not at all, for one of four reasons, with
nothing kept, or for good. -/
inductive Backend.BoundBy (b : Backend ε) (device : DeviceContext) (config : EncoderConfig)
    (native : PixelFormat) : List Call → Except EncoderError (BoundEncoder ε) → Prop
  /-- The layout is not one of pictures in memory. -/
  | hardware (layout : native.isHardware = true) :
      BoundBy b device config native device.release.calls (.error (.formatMismatch .bgr0 native))
  /-- There is no pool. -/
  | poolless {f : Fault} (layout : native.isHardware = false)
      (opened : b.openPool device.device (config.poolShape native) = .error f) :
      BoundBy b device config native
        (.openPool device.device (config.poolShape native) (.error f) :: device.release.calls)
        (.error (.poolFailed f))
  /-- The pool has another format than the encoder takes. -/
  | mismatched {format : PixelFormat} (layout : native.isHardware = false)
      (opened : b.openPool device.device (config.poolShape native) = .ok format)
      (other : format ≠ config.pixelFormat) :
      BoundBy b device config native
        (.openPool device.device (config.poolShape native) (.ok format) ::
          .release .framePool :: device.release.calls)
        (.error (.formatMismatch config.pixelFormat format))
  /-- The encoder is not opened. -/
  | unopened {f : Fault} (layout : native.isHardware = false)
      (opened : b.openPool device.device (config.poolShape native) = .ok config.pixelFormat)
      (encoder : b.openEncoder config = .error f) :
      BoundBy b device config native
        (.openPool device.device (config.poolShape native) (.ok config.pixelFormat) ::
          .openEncoder config (.error f) :: .release .framePool :: device.release.calls)
        (.error (.openFailed config.encoderName f))
  /-- The encoder is bound, and has taken no frame. -/
  | bound {e : ε} (layout : native.isHardware = false)
      (opened : b.openPool device.device (config.poolShape native) = .ok config.pixelFormat)
      (encoder : b.openEncoder config = .ok e) :
      BoundBy b device config native
        [.openPool device.device (config.poolShape native) (.ok config.pixelFormat),
          .openEncoder config (.ok ())]
        (.ok ⟨e, ⟨config.poolShape native, config.pixelFormat, device⟩, config, false, 0⟩)

/-- An encoder is bound in one of these ways. -/
theorem Backend.bind_boundBy (b : Backend ε) (device : DeviceContext) (config : EncoderConfig)
    (native : PixelFormat) :
    b.BoundBy device config native (b.bind device config native).calls
      (b.bind device config native).value := by
  cases hl : native.isHardware with
  | true => simpa [bind, tryBind, hl] using BoundBy.hardware hl
  | false =>
    -- The model writes the shape of the pool out, so the answer is kept in both forms.
    rcases ho : b.openPool device.device (config.poolShape native) with f | format
    · have ho' := ho
      unfold EncoderConfig.poolShape at ho'
      simpa [bind, tryBind, hl, ho', EncoderConfig.poolShape] using BoundBy.poolless hl ho
    have ho' := ho
    unfold EncoderConfig.poolShape at ho'
    by_cases hf : format = config.pixelFormat
    · subst hf
      rcases he : b.openEncoder config with f | e
      · simpa [bind, tryBind, hl, ho', he, Except.map, FramePool.release,
          EncoderConfig.poolShape] using BoundBy.unopened hl ho he
      · simpa [bind, tryBind, hl, ho', he, Except.map, EncoderConfig.poolShape] using
          BoundBy.bound hl ho he
    · simpa [bind, tryBind, hl, ho', hf, FramePool.release, EncoderConfig.poolShape] using
        BoundBy.mismatched hl ho hf

/-- The calls that let go of an encoder, its pool and the device context. -/
def BoundEncoder.releaseCalls (b : BoundEncoder ε) : List Call :=
  [.release .encoder, .release .framePool,
    .destroyContext b.pool.device.raw (b.pool.device.driver.destroyContext b.pool.device.raw)]

omit [Encoder ε] in
/-- A bound encoder is let go in reverse order. -/
@[simp] theorem BoundEncoder.calls_release (b : BoundEncoder ε) :
    b.release.calls = b.releaseCalls := by
  simp [BoundEncoder.release, FramePool.release, releaseCalls]

/-! ## Feeding -/

/-- A frame of the right size and layout is handed to an encoder that has not been flushed. -/
theorem BoundEncoder.submit_handed (b : BoundEncoder ε) (frame : SurfaceFrame)
    {answer : Except Fault Unit} {e : ε} (unflushed : b.flushed = false)
    (size : ¬ (evenFloor frame.width ≠ b.pool.shape.width ∨
      evenFloor frame.height ≠ b.pool.shape.height))
    (layout : frame.format = b.pool.shape.layout)
    (sent : Encoder.sendFrame b.encoder frame = (answer, e)) :
    (b.submit frame).calls = [.sendFrame frame answer] ∧
      (b.submit frame).value = match answer with
        | .error f => (.error (.sendFailed f), { b with encoder := e })
        | .ok () => (.ok (), { b with encoder := e, framesSent := b.framesSent + 1 }) := by
  cases answer <;> simp [submit, unflushed, size, layout, sent]

/-- An encoder that has not been flushed is told the end of input. -/
theorem BoundEncoder.flush_sent (b : BoundEncoder ε) {answer : Except Fault Unit}
    {e : ε} (unflushed : b.flushed = false) (sent : Encoder.sendEnd b.encoder = (answer, e)) :
    b.flush.calls = [.sendEnd answer] ∧
      b.flush.value = match answer with
        | .error f => (.error (.sendFailed f), { b with encoder := e })
        | .ok () => (.ok (), { b with encoder := e, flushed := true }) := by
  cases answer <;> simp [BoundEncoder.flush, unflushed, sent]

end Framecast

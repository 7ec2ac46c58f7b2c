import Framecast.Journal

/-!
# Acquiring and releasing a context

A driver gets ready, counts its devices, resolves the first one and creates a context there. The
context is destroyed when its owner lets go of it; a driver that refuses that is only mentioned in
the log.
-/

namespace Framecast

open Journaled

/-- Create a context on the first device. -/
def Driver.acquire (d : Driver) : Journaled (Except DeviceError DeviceContext) :=
  within ⟨"acquire_context", [⟨"driver", .quoted d.name⟩]⟩ do
    call (.driverInit d.init)
    match d.init with
    | .error f => do
      say .error .device "Driver initialization failed" [⟨"fault", .plain f.text⟩]
      return .error (.init f)
    | .ok () => do
    call (.deviceCount d.deviceCount)
    match d.deviceCount with
    | .error f => return .error (.enumerate f)
    | .ok count => do
    if count = 0 then
      say .error .device "No compute device found" []
      return .error .noDevice
    else
    let device := d.device deviceOrdinal
    call (.resolveDevice deviceOrdinal device)
    match device with
    | .error f => return .error (.select deviceOrdinal f)
    | .ok handle => do
    let created := d.createContext handle .auto
    call (.createContext handle .auto created)
    match created with
    | .error f => do
      say .error .device "Context creation failed" [⟨"fault", .plain f.text⟩]
      return .error (.createContext f)
    | .ok raw => do
    say .info .device "GPU context created"
      [⟨"devices", .nat count.toNat⟩, ⟨"ordinal", .nat deviceOrdinal.toNat⟩]
    return .ok ⟨d, handle, raw, deviceOrdinal⟩

/-- Destroy the context. -/
def DeviceContext.release (c : DeviceContext) : Journaled Unit := do
  let answer := c.driver.destroyContext c.raw
  call (.destroyContext c.raw answer)
  match answer with
  | .ok () => say .debug .device "GPU context destroyed" [⟨"ordinal", .nat c.ordinal.toNat⟩]
  | .error f =>
    say .warn .device "Failed to destroy GPU context"
      [⟨"ordinal", .nat c.ordinal.toNat⟩, ⟨"fault", .plain f.text⟩]

end Framecast

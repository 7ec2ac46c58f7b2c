import Framecast.Fault

/-!
# Compute devices

A session runs in a context on one device. The calls it makes of a driver come in a fixed order,
each at most once, so a `Driver` is given by its answers.
-/

namespace Framecast

/-- A device as the driver names it. -/
structure DeviceHandle where
  /-- The driver's number for the device. -/
  id : Int32
deriving DecidableEq, Repr

/-- The address of a context. -/
structure RawContext where
  /-- The address. -/
  address : UInt64
deriving DecidableEq, Repr

/-- The address of no context. -/
def RawContext.isNull (r : RawContext) : Bool := r.address = 0

/-- How the driver waits for the device. -/
inductive SchedulePolicy
  /-- As the driver sees fit. -/
  | auto
  | spin
  | yield
  | blockingSync
deriving DecidableEq, Repr

/-- The policy by name. -/
def SchedulePolicy.label : SchedulePolicy → String
  | .auto => "Auto"
  | .spin => "Spin"
  | .yield => "Yield"
  | .blockingSync => "BlockingSync"

/-- A compute driver, by what it answers to each call of a session. -/
structure Driver where
  /-- A short name for logs. -/
  name : String
  /-- Getting ready. -/
  init : Except Fault Unit
  /-- How many devices there are. -/
  deviceCount : Except Fault UInt32
  /-- The device of an ordinal. -/
  device : UInt32 → Except Fault DeviceHandle
  /-- A new context. -/
  createContext : DeviceHandle → SchedulePolicy → Except Fault RawContext
  /-- The end of a context. -/
  destroyContext : RawContext → Except Fault Unit

/-- The ordinal of the device that sessions run on. -/
def deviceOrdinal : UInt32 := 0

/-- The owner of a context. -/
structure DeviceContext where
  /-- The driver that made it. -/
  driver : Driver
  /-- The device it is on. -/
  device : DeviceHandle
  /-- Its address. -/
  raw : RawContext
  /-- The ordinal of the device. -/
  ordinal : UInt32

/-- The owner in words. -/
def DeviceContext.describe (c : DeviceContext) : String :=
  "DeviceContext \x7b driver: \"" ++ c.driver.name ++ "\", device: DeviceHandle("
    ++ toString c.device.id.toInt ++ "), raw: RawContext(" ++ toString c.raw.address.toNat
    ++ "), ordinal: " ++ toString c.ordinal.toNat ++ " \x7d"

/-- Why there is no context. -/
inductive DeviceError
  | init (fault : Fault)
  | enumerate (fault : Fault)
  | noDevice
  | select (ordinal : UInt32) (fault : Fault)
  | createContext (fault : Fault)
deriving DecidableEq, Repr

namespace DeviceError

/-- The error in words. -/
def message : DeviceError → String
  | init f => "Compute driver initialization failed: " ++ f.text
  | enumerate f => "Device enumeration failed: " ++ f.text
  | noDevice => "No compute device found"
  | select ordinal f => "Failed to open device " ++ toString ordinal.toNat ++ ": " ++ f.text
  | createContext f => "Context creation failed: " ++ f.text

/-- What the driver reported, if it did. -/
def fault? : DeviceError → Option Fault
  | init f => some f
  | enumerate f => some f
  | noDevice => none
  | select _ f => some f
  | createContext f => some f

end DeviceError

/-- A driver whose library is not installed. It refuses to get ready, so nothing else is asked of
it. -/
def Driver.missing : Driver :=
  let fault : Fault := ⟨-1, "CUDA driver library not found"⟩
  { name := "cuda"
    init := .error fault
    deviceCount := .error fault
    device := fun _ => .error fault
    createContext := fun _ _ => .error fault
    destroyContext := fun _ => .error fault }

end Framecast

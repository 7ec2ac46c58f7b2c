import Framecast.Container.Basic
import Framecast.Message.Basic

/-!
# Why a session fails

An error of a session is an error of one of its parts. During startup it also names the phase that
failed. An error is recoverable if all it costs is one frame.
-/

namespace Framecast

/-- The part that failed during startup. -/
inductive StageError
  | device (e : DeviceError)
  | encoder (e : EncoderError)
  | mux (e : MuxError)
deriving DecidableEq, Repr

/-- The error in words. -/
def StageError.message : StageError → String
  | .device e => e.message
  | .encoder e => e.message
  | .mux e => e.message

/-- Why a session failed. -/
inductive SessionError
  | config (e : ConfigError)
  | startup (phase : StartupPhase) (e : StageError)
  /-- A native library could not be loaded. -/
  | backend (fault : Fault)
  | encoder (e : EncoderError)
  | mux (e : MuxError)
  | capture (e : CaptureError)
  /-- The frame has no usable surface. -/
  | invalidFrame (sequence : UInt64)
deriving DecidableEq, Repr

namespace SessionError

/-- The error in words. -/
def message : SessionError → String
  | config e => e.message
  | startup phase e => phase.name ++ " failed: " ++ e.message
  | backend f => "Backend initialization failed: " ++ f.text
  | encoder e => e.message
  | mux e => e.message
  | capture e => e.message
  | invalidFrame sequence => "Frame " ++ toString sequence.toNat ++ " has no usable surface"

/-- The session can go on: only one frame is lost. -/
def isRecoverable : SessionError → Bool
  | encoder e => e.isRecoverable
  | invalidFrame _ => true
  | _ => false

/-- The encoder has already given its last packet. -/
def isEndOfStream : SessionError → Bool
  | mux .encoderTerminated => true
  | _ => false

end SessionError

end Framecast

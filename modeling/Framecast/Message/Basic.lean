import Framecast.Message.Config
import Framecast.Message.Phase
import Framecast.Message.Rate

/-!
# Messages

An application drives the engine with a `Command`; the engine answers with an `Event`. The states
that a session goes through are part of both.
-/

namespace Framecast

/-- The figures of a running session. -/
structure SessionStats where
  /-- Frames handed to the encoder per second since the last report. -/
  fps : Rate := .zero
  /-- The configured frame rate. -/
  targetFps : Rate := .zero
  /-- Kilobits per second since the session started. -/
  bitrateKbps : UInt32 := 0
  /-- Frames the encoder took. -/
  framesSubmitted : UInt64 := 0
  /-- Frames the source delivered without new content. -/
  repeatedFrames : UInt64 := 0
  /-- Packets the container took. -/
  packetsWritten : UInt64 := 0
  /-- Bytes the container took. -/
  bytesWritten : UInt64 := 0
  /-- Packets the container refused. -/
  writeFailures : UInt64 := 0
  /-- Drain cycles that ended because the encoder wanted another frame. -/
  flowControlStops : UInt64 := 0
  /-- Seconds since the session started. -/
  uptimeSeconds : UInt64 := 0
deriving DecidableEq, Repr

/-- A condition worth reporting that ends nothing. -/
inductive Warning
  /-- The container refused packets since the last report. -/
  | packetWriteFailures (count : UInt64)
  /-- The encoder answered with an unexpected code. -/
  | encoderStalled (code : Int32)
  /-- Frames come slower than configured. -/
  | frameRateBelowTarget (fps targetFps : Rate)
deriving DecidableEq, Repr

/-- Why a session stops. -/
inductive StopReason
  | userRequested
  | endOfStream
  | captureLost (message : String)
  | encoderError (message : String)
  | fatalError (message : String)
deriving DecidableEq, Repr

/-- The reason in words. -/
def StopReason.message : StopReason → String
  | .userRequested => "Session stopped by user"
  | .endOfStream => "Encoder reached end of stream"
  | .captureLost m => "Capture lost: " ++ m
  | .encoderError m => "Encoder error: " ++ m
  | .fatalError m => "Fatal error: " ++ m

/-- The session ended because something failed. -/
def StopReason.isFailure : StopReason → Bool
  | .userRequested => false
  | .endOfStream => false
  | _ => true

/-- What the session is doing. -/
inductive SessionState
  /-- There is no session. -/
  | idle
  /-- A session is being built. -/
  | starting (phase : StartupPhase)
  /-- Frames are being encoded; the figures are those of the moment it went live. -/
  | live (config : SessionConfig) (stats : SessionStats)
  /-- The session is being taken down. -/
  | stopping (reason : StopReason) (phase : ShutdownPhase)
  /-- The session failed. -/
  | error (message : String) (recoverable : Bool)
deriving DecidableEq, Repr

namespace SessionState

/-- The state without its details. -/
def name : SessionState → String
  | idle => "Idle"
  | starting _ => "Starting"
  | live _ _ => "Live"
  | stopping _ _ => "Stopping"
  | error _ _ => "Error"

/-- There is no session. -/
def isIdle : SessionState → Bool
  | idle => true
  | _ => false

/-- A session is being built. -/
def isStarting : SessionState → Bool
  | starting _ => true
  | _ => false

/-- Frames are being encoded. -/
def isLive : SessionState → Bool
  | live _ _ => true
  | _ => false

/-- The session is being taken down. -/
def isStopping : SessionState → Bool
  | stopping _ _ => true
  | _ => false

/-- The session failed. -/
def isError : SessionState → Bool
  | error _ _ => true
  | _ => false

end SessionState

/-- What an application asks of the engine. -/
inductive Command
  /-- Start a session. -/
  | start (config : SessionConfig)
  /-- Stop the session. -/
  | stop
  /-- Tell the state. -/
  | getState
  /-- End the engine. -/
  | shutdown
deriving DecidableEq, Repr

/-- What the engine tells the application. -/
inductive Event
  /-- The state changed; asked for its state, the engine answers with it twice. -/
  | stateChanged (previous current : SessionState)
  | stats (stats : SessionStats)
  | warning (warning : Warning)
  | error (recoverable : Bool) (message : String)
  /-- The engine runs. -/
  | ready
  /-- The engine has been told to end. -/
  | shutdown
deriving DecidableEq, Repr

/-- How many events can wait for the application. -/
def eventCapacity : Nat := 256

end Framecast

/-!
# Phases of a session

A session starts in five phases, each of which acquires one thing, and ends in six, which release
them in reverse order.
-/

namespace Framecast

/-- The phases of a starting session, in order. -/
inductive StartupPhase
  | acquireDevice
  | configureEncoder
  | bindFrames
  | publishStream
  | writeHeader
deriving DecidableEq, Repr

namespace StartupPhase

/-- All phases in order. -/
def all : List StartupPhase :=
  [acquireDevice, configureEncoder, bindFrames, publishStream, writeHeader]

/-- The phase after this one. -/
def next? : StartupPhase → Option StartupPhase
  | acquireDevice => some configureEncoder
  | configureEncoder => some bindFrames
  | bindFrames => some publishStream
  | publishStream => some writeHeader
  | writeHeader => none

/-- The phase before this one. -/
def previous? : StartupPhase → Option StartupPhase
  | acquireDevice => none
  | configureEncoder => some acquireDevice
  | bindFrames => some configureEncoder
  | publishStream => some bindFrames
  | writeHeader => some publishStream

/-- The phase in messages. -/
def label : StartupPhase → String
  | acquireDevice => "AcquireDevice"
  | configureEncoder => "ConfigureEncoder"
  | bindFrames => "BindFrames"
  | publishStream => "PublishStream"
  | writeHeader => "WriteHeader"

/-- What is being done, in words. -/
def name : StartupPhase → String
  | acquireDevice => "Acquiring GPU context"
  | configureEncoder => "Configuring encoder"
  | bindFrames => "Binding frame pool"
  | publishStream => "Publishing output stream"
  | writeHeader => "Writing container header"

end StartupPhase

/-- The phases of an ending session, in order. -/
inductive ShutdownPhase
  | stopCapture
  | flushEncoder
  | writeTrailer
  | releaseEncoder
  | releaseFramePool
  | releaseDevice
deriving DecidableEq, Repr

namespace ShutdownPhase

/-- All phases in order. -/
def all : List ShutdownPhase :=
  [stopCapture, flushEncoder, writeTrailer, releaseEncoder, releaseFramePool, releaseDevice]

/-- The phase after this one. -/
def next? : ShutdownPhase → Option ShutdownPhase
  | stopCapture => some flushEncoder
  | flushEncoder => some writeTrailer
  | writeTrailer => some releaseEncoder
  | releaseEncoder => some releaseFramePool
  | releaseFramePool => some releaseDevice
  | releaseDevice => none

/-- The phase in messages. -/
def label : ShutdownPhase → String
  | stopCapture => "StopCapture"
  | flushEncoder => "FlushEncoder"
  | writeTrailer => "WriteTrailer"
  | releaseEncoder => "ReleaseEncoder"
  | releaseFramePool => "ReleaseFramePool"
  | releaseDevice => "ReleaseDevice"

/-- What is being done, in words. -/
def name : ShutdownPhase → String
  | stopCapture => "Stopping capture"
  | flushEncoder => "Flushing encoder"
  | writeTrailer => "Writing container trailer"
  | releaseEncoder => "Closing encoder"
  | releaseFramePool => "Releasing frame pool"
  | releaseDevice => "Releasing GPU context"

end ShutdownPhase

end Framecast

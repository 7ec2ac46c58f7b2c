import Framecast.Container.Drain
import Framecast.Message.Basic

/-!
# Session figures

The capture loop counts what it does; the engine takes snapshots of the counters and derives rates
and warnings from them. Counters are 64 bits wide and wrap around. A snapshot fails if the bytes
written, counted in bits, exceed 64 bits.
-/

namespace Framecast

/-- The counters of a session. -/
structure Metrics where
  /-- When the session started, while it runs. -/
  startTime : Option Instant
  framesSubmitted : UInt64
  repeatedFrames : UInt64
  packetsWritten : UInt64
  bytesWritten : UInt64
  writeFailures : UInt64
  flowControlStops : UInt64
  /-- The code of the last stall that has not been reported. -/
  lastStall : Option Int32
  /-- When the last report was made. -/
  lastReport : Instant
  /-- Frames submitted at the last report. -/
  lastFrames : UInt64
  /-- Packets refused at the last report. -/
  lastFailures : UInt64
  /-- The configured frame rate. -/
  targetFps : Rate

namespace Metrics

/-- How old a session is before its frame rate is held against the configured one. -/
def frameRateGrace : Duration := .ofSeconds 2 0

/-- The frame rate when none is configured. -/
def defaultTargetFps : Rate := .ofFloat32 60

/-- Counters at zero. -/
def new (targetFps : Rate) (now : Instant) : Metrics :=
  { startTime := none
    framesSubmitted := 0
    repeatedFrames := 0
    packetsWritten := 0
    bytesWritten := 0
    writeFailures := 0
    flowControlStops := 0
    lastStall := none
    lastReport := now
    lastFrames := 0
    lastFailures := 0
    targetFps }

/-- The session starts. -/
def start (m : Metrics) (now : Instant) : Metrics :=
  { m with startTime := some now, lastReport := now }

/-- The session has ended. -/
def stop (m : Metrics) : Metrics := { m with startTime := none }

/-- A frame repeated the picture before it. -/
def recordRepeated (m : Metrics) : Metrics := { m with repeatedFrames := m.repeatedFrames + 1 }

/-- A drain cycle moved packets. -/
def recordPackets (m : Metrics) (r : DrainReport) : Metrics :=
  let m := { m with
    packetsWritten := m.packetsWritten + .ofNat r.written
    bytesWritten := m.bytesWritten + .ofNat r.bytes
    writeFailures := m.writeFailures + .ofNat r.writeFailures }
  match r.outcome with
  | .exhausted => { m with flowControlStops := m.flowControlStops + 1 }
  | .stalled f => { m with lastStall := some f.code }
  | .endOfStream => m

/-- A frame was submitted, and a drain cycle followed. -/
def recordDrain (m : Metrics) (r : DrainReport) : Metrics :=
  { m with framesSubmitted := m.framesSubmitted + 1 }.recordPackets r

/-- How far `a` is above `b`, if it is. -/
def excess (a b : UInt64) : UInt64 := if b < a then a - b else 0

/-- Frames per second since the last report. -/
def frameRate (m : Metrics) (now : Instant) : Float32 :=
  let elapsed := (now.since m.lastReport).toSeconds32
  if elapsed > 0 then (excess m.framesSubmitted m.lastFrames).toFloat32 / elapsed else 0

/-- Kilobits per second since the start. -/
def bitrateKbps (m : Metrics) (now : Instant) : Except Overflow UInt32 :=
  match m.startTime with
  | none => .ok 0
  | some start =>
    let elapsed := (now.since start).toSeconds32
    if elapsed > 0 then
      if m.bytesWritten.toNat * 8 < UInt64.size then
        .ok ((m.bytesWritten * 8).toFloat32 / elapsed / 1000).toUInt32
      else .error .multiplication
    else .ok 0

/-- Whole seconds since the start. -/
def uptime (m : Metrics) (now : Instant) : UInt64 :=
  match m.startTime with
  | none => 0
  | some start => .ofNat (now.since start).seconds

/-- The figures as they are now. -/
def snapshot (m : Metrics) (now : Instant) : Except Overflow SessionStats := do
  let bitrateKbps ← m.bitrateKbps now
  return {
    fps := .ofFloat32 (m.frameRate now)
    targetFps := m.targetFps
    bitrateKbps
    framesSubmitted := m.framesSubmitted
    repeatedFrames := m.repeatedFrames
    packetsWritten := m.packetsWritten
    bytesWritten := m.bytesWritten
    writeFailures := m.writeFailures
    flowControlStops := m.flowControlStops
    uptimeSeconds := m.uptime now }

/-- The session is old enough for its frame rate to count. -/
def isSettled (m : Metrics) (now : Instant) : Bool :=
  m.startTime.any fun start => frameRateGrace.nanos ≤ (now.since start).nanos

/-- What the figures warn of: packets refused since the last report, a stall not yet reported, a
frame rate more than a tenth below the configured one. A stall is reported once. -/
def checkWarnings (m : Metrics) (s : SessionStats) (now : Instant) : List Warning × Metrics :=
  let failures := excess s.writeFailures m.lastFailures
  let refused := if 0 < failures then [Warning.packetWriteFailures failures] else []
  let stalled := m.lastStall.toList.map Warning.encoderStalled
  let slow := if m.isSettled now && s.fps.toFloat32 < s.targetFps.toFloat32 * 0.9
    then [Warning.frameRateBelowTarget s.fps s.targetFps] else []
  (refused ++ stalled ++ slow, { m with lastStall := none })

/-- A report was made. -/
def markReported (m : Metrics) (now : Instant) : Metrics :=
  { m with
    lastReport := now
    lastFrames := m.framesSubmitted
    lastFailures := m.writeFailures }

end Metrics

end Framecast

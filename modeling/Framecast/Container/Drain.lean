import Framecast.Journal

/-!
# Draining an encoder into a container

After each frame the encoder is asked for packets until it has none. Each packet is stamped with the
presentation time of the last frame, in the time base that the container writes in; where that does
not exceed the packet before, the packet comes one tick after it. A packet that the container
refuses is counted and lost, and its tick is free for the next one.

The recursion is on the encoder's backlog, which each packet received makes smaller.
-/

namespace Framecast

open Journaled

/-- What a drain is doing. -/
inductive DrainState
  | idle
  | draining
  /-- The encoder has reported end of stream; there is nothing more to drain. -/
  | terminal
deriving DecidableEq, Repr

/-- Why a drain cycle ended. -/
inductive DrainOutcome
  /-- The encoder needs another frame. -/
  | exhausted
  | endOfStream
  /-- The encoder answered with an unexpected code. -/
  | stalled (fault : Fault)
deriving DecidableEq, Repr

/-- What a drain cycle did. -/
structure DrainReport where
  /-- Packets the container took. -/
  written : Nat
  /-- Bytes it took. -/
  bytes : Nat
  /-- Packets it refused. -/
  writeFailures : Nat
  outcome : DrainOutcome
deriving DecidableEq, Repr

/-- The state of a drain between cycles. -/
structure PacketDrain where
  state : DrainState := .idle
  /-- The stamp of the last packet that was taken. -/
  lastDts : Option Int64 := none
  /-- Packets taken in all cycles. -/
  packetsWritten : Nat := 0
  /-- Packets refused in all cycles. -/
  writeFailures : Nat := 0
deriving DecidableEq, Repr

/-- The drain accepts no more cycles. -/
def PacketDrain.isTerminal (d : PacketDrain) : Bool := d.state = .terminal

/-- The timestamp one tick after `t`. -/
def tickAfter (t : Int64) : Except Overflow Int64 :=
  if t = Int64.maxValue then .error .addition else .ok (t + 1)

/-- The least timestamp at or after `wanted` that comes after `last`. -/
def nextStamp (last : Option Int64) (wanted : Int64) : Except Overflow Int64 :=
  match last with
  | none => .ok wanted
  | some t => if wanted ≤ t then tickAfter t else .ok wanted

/-- A container within a drain cycle, and what has been written so far. -/
structure Outlet (κ : Type) where
  container : κ
  lastDts : Option Int64
  written : Nat
  bytes : Nat
  writeFailures : Nat

variable {ε κ : Type} [Encoder ε] [Container κ]

/-- Write one packet, stamped at or after `stamp`. -/
def Outlet.write (o : Outlet κ) (stream : Nat) (stamp : Int64) (p : Packet) :
    Journaled (Except Overflow Unit × Outlet κ) :=
  match nextStamp o.lastDts stamp with
  | .error e => return (.error e, o)
  | .ok ts => do
    let p := { p with stream, pts := ts, dts := ts }
    let (answer, container) := Container.writePacket o.container p
    call (.writePacket p answer)
    match answer with
    | .ok () =>
      return (.ok (), { o with
        container, lastDts := some ts, written := o.written + 1, bytes := o.bytes + p.data.size })
    | .error f => do
      say .warn .draining "Failed to write packet"
        [⟨"stream", .nat stream⟩, ⟨"code", .int f.code.toInt⟩, ⟨"fault", .plain f.text⟩]
      return (.ok (), { o with container, writeFailures := o.writeFailures + 1 })

/-- Ask for packets and write them until there are none. -/
def pull (stream : Nat) (stamp : Int64) (e : ε) (o : Outlet κ) :
    Journaled (Except Overflow DrainOutcome × ε × Outlet κ) :=
  match _h : Encoder.receive e with
  | (.packet p, e') => do
    call (.receive (.packet p))
    let (r, o) ← o.write stream stamp p
    match r with
    | .error x => return (.error x, e', o)
    | .ok () => pull stream stamp e' o
  | (.again, e') => do
    call (.receive .again)
    return (.ok .exhausted, e', o)
  | (.endOfStream, e') => do
    call (.receive .endOfStream)
    say .info .draining "Encoder reached end of stream" [⟨"stream", .nat stream⟩]
    return (.ok .endOfStream, e', o)
  | (.failed f, e') => do
    call (.receive (.failed f))
    say .warn .draining "Encoder returned an unexpected code"
      [⟨"stream", .nat stream⟩, ⟨"code", .int f.code.toInt⟩, ⟨"fault", .plain f.text⟩]
    return (.ok (.stalled f), e', o)
termination_by Encoder.backlog e
decreasing_by exact Encoder.backlog_receive e p e' ‹_›

/-- A drain after a cycle, with the encoder and the container it worked on. -/
structure Drained (ε κ : Type) where
  result : Except Overflow (Except MuxError DrainReport)
  drain : PacketDrain
  encoder : ε
  container : κ

/-- The drain after a cycle that ended with `outcome`. -/
def PacketDrain.settle (d : PacketDrain) (o : Outlet κ) (outcome : DrainOutcome) : PacketDrain :=
  { state := if outcome = .endOfStream then .terminal else .idle
    lastDts := o.lastDts
    packetsWritten := d.packetsWritten + o.written
    writeFailures := d.writeFailures + o.writeFailures }

/-- One cycle: pull every packet the encoder has ready and write it to the stream, stamped with
`lastFramePts`, which is given in the encoder's time base. -/
def PacketDrain.cycle (d : PacketDrain) (encoder : ε) (encoderTimeBase : Rational)
    (stream : OutputStream) (lastFramePts : Int64) (container : κ) : Journaled (Drained ε κ) :=
  if d.isTerminal then return ⟨.ok (.error .encoderTerminated), d, encoder, container⟩
  else do
    let timeBase := (Container.timeBase? container stream.index).getD stream.timeBase
    let stamp := Rational.rescale lastFramePts encoderTimeBase timeBase
    let (r, encoder, o) ← pull stream.index stamp encoder ⟨container, d.lastDts, 0, 0, 0⟩
    match r with
    | .error x =>
      return ⟨.error x, { d with state := .draining, lastDts := o.lastDts }, encoder, o.container⟩
    | .ok outcome =>
      return ⟨.ok (.ok ⟨o.written, o.bytes, o.writeFailures, outcome⟩), d.settle o outcome, encoder,
        o.container⟩

end Framecast

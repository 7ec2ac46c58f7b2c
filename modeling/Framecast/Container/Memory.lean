import Framecast.Container.Basic

/-!
# A container in memory

It keeps every packet. Its rules are those of a real one: streams come before the header, packets
between header and trailer, and the decoding times of a stream increase. A call that it refuses
leaves it as it was.
-/

namespace Framecast

/-- A container that keeps what is written. -/
structure MemoryContainer where
  /-- Ask for codec headers apart from the packets. -/
  globalHeader : Bool := false
  /-- How many streams there is room for. -/
  maxStreams : Option Nat := none
  /-- The time base that every stream has once the header is written. -/
  muxerTimeBase : Option Rational := none
  streams : Array StreamSpec := #[]
  /-- The decoding time of the last packet of each stream. -/
  lastDts : Array (Option Int64) := #[]
  packets : Array Packet := #[]
  headerWritten : Bool := false
  trailerWritten : Bool := false

namespace MemoryContainer

/-- Ask for codec headers apart from the packets, or not. -/
def withGlobalHeader (c : MemoryContainer) (globalHeader : Bool) : MemoryContainer :=
  { c with globalHeader }

/-- Have room for so many streams. -/
def withStreamLimit (c : MemoryContainer) (maxStreams : Nat) : MemoryContainer :=
  { c with maxStreams := some maxStreams }

/-- Choose the time base of every stream. -/
def withMuxerTimeBase (c : MemoryContainer) (timeBase : Rational) : MemoryContainer :=
  { c with muxerTimeBase := some timeBase }

/-- The fault of a call that is out of order. -/
def misuse (message : String) : Fault := ⟨-22, message⟩

/-- Take a stream while the header is not written and there is room. -/
def addStream (c : MemoryContainer) (spec : StreamSpec) : Option Nat × MemoryContainer :=
  if c.headerWritten || c.maxStreams.any (· ≤ c.streams.size) then (none, c)
  else (some c.streams.size,
    { c with streams := c.streams.push spec, lastDts := c.lastDts.push none })

/-- Begin the output, once, when there is a stream. -/
def writeHeader (c : MemoryContainer) : Except Fault Unit × MemoryContainer :=
  if c.streams.isEmpty then (.error (misuse "no streams to write"), c)
  else if c.headerWritten then (.error (misuse "header already written"), c)
  else (.ok (), { c with headerWritten := true })

/-- The time base chosen for a stream, once the header is written. -/
def timeBase? (c : MemoryContainer) (index : Nat) : Option Rational :=
  if c.headerWritten ∧ index < c.streams.size then c.muxerTimeBase else none

/-- Take a packet of a known stream that is decoded after those before. -/
def writePacket (c : MemoryContainer) (p : Packet) : Except Fault Unit × MemoryContainer :=
  if !c.headerWritten || c.trailerWritten then
    (.error (misuse "container is not accepting packets"), c)
  else
    match c.lastDts[p.stream]? with
    | none => (.error (misuse ("no stream " ++ toString p.stream)), c)
    | some last =>
      match last with
      | some t =>
        if p.dts ≤ t then
          (.error (misuse ("non monotonically increasing dts: " ++ toString p.dts.toInt ++ " <= "
            ++ toString t.toInt)), c)
        else
          (.ok (), { c with
            lastDts := c.lastDts.setIfInBounds p.stream (some p.dts), packets := c.packets.push p })
      | none =>
        (.ok (), { c with
          lastDts := c.lastDts.setIfInBounds p.stream (some p.dts), packets := c.packets.push p })

/-- End the output, once, after the header. -/
def writeTrailer (c : MemoryContainer) : Except Fault Unit × MemoryContainer :=
  if !c.headerWritten then (.error (misuse "trailer before header"), c)
  else if c.trailerWritten then (.error (misuse "trailer already written"), c)
  else (.ok (), { c with trailerWritten := true })

/-- A container in memory takes streams and packets. -/
instance : Container MemoryContainer where
  requiresGlobalHeader := globalHeader
  streamCount c := c.streams.size
  addStream := addStream
  writeHeader := writeHeader
  timeBase? := timeBase?
  writePacket := writePacket
  writeTrailer := writeTrailer

end MemoryContainer

end Framecast

import Framecast.Container.Memory
import Framecast.Script.Encoder

/-!
# Scripted containers

A container in memory behind scripted faults. A call that fails by the script does not reach the
memory.
-/

namespace Framecast

/-- A container in memory that fails where its script says. -/
structure ScriptedContainer where
  memory : MemoryContainer := {}
  /-- How far the index it answers for a stream is off. -/
  indexOffset : Nat := 0
  /-- It never tells its time base. -/
  reticent : Bool := false
  /-- The fault of the header, if it fails. -/
  header : Option Fault := none
  /-- Answers to the next packets. -/
  writing : List (Option Fault) := []
  /-- The fault of the trailer, if it fails. -/
  trailer : Option Fault := none

namespace ScriptedContainer

/-- Do `f` to the memory, unless the script answers first. -/
def reach (c : ScriptedContainer) (answer : Except Fault Unit)
    (f : MemoryContainer → Except Fault Unit × MemoryContainer) :
    Except Fault Unit × ScriptedContainer :=
  match answer with
  | .error x => (.error x, c)
  | .ok () =>
    let (answer, memory) := f c.memory
    (answer, { c with memory })

/-- A scripted container takes what its script lets it take. -/
instance : Container ScriptedContainer where
  requiresGlobalHeader c := c.memory.globalHeader
  streamCount c := c.memory.streams.size
  addStream c spec :=
    let (index, memory) := c.memory.addStream spec
    (index.map (· + c.indexOffset), { c with memory })
  writeHeader c := c.reach (unlessFault () c.header) MemoryContainer.writeHeader
  timeBase? c index := if c.reticent then none else c.memory.timeBase? index
  writePacket c p :=
    let (answer, writing) := nextFault c.writing
    { c with writing }.reach answer (·.writePacket p)
  writeTrailer c := c.reach (unlessFault () c.trailer) MemoryContainer.writeTrailer

end ScriptedContainer

end Framecast

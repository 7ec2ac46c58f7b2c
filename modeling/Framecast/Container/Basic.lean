import Framecast.Encoder.Basic

/-!
# Containers

A container writes packets of one or more streams. The class `Container` describes one by its
answers.
-/

namespace Framecast

/-- What a container needs to know of a stream. -/
structure StreamSpec where
  codec : Codec
  /-- The implementation that encodes it. -/
  encoderName : String
  width : UInt32
  height : UInt32
  bitRate : UInt64
  timeBase : Rational
  frameRate : Rational
  /-- Codec headers, apart from the packets. -/
  extradata : Option ByteArray
deriving DecidableEq

/-- A stream of a container. Its time base is the encoder's. -/
structure OutputStream where
  index : Nat
  timeBase : Rational
  /-- The frame rate the container was told. -/
  frameRate : Rational
deriving DecidableEq, Repr

/-- A writer of packets. -/
class Container (κ : Type) where
  /-- It wants codec headers apart from the packets. -/
  requiresGlobalHeader : κ → Bool
  /-- How many streams it has. -/
  streamCount : κ → Nat
  /-- Take a stream, answering its index, or none if there is no room for it. -/
  addStream : κ → StreamSpec → Option Nat × κ
  /-- Begin the output. -/
  writeHeader : κ → Except Fault Unit × κ
  /-- The time base it writes a stream in, if that is not the stream's own. -/
  timeBase? : κ → Nat → Option Rational
  /-- Take a packet. -/
  writePacket : κ → Packet → Except Fault Unit × κ
  /-- End the output. -/
  writeTrailer : κ → Except Fault Unit × κ

/-- Why packets do not reach a container. -/
inductive MuxError
  | openFailed (url : String) (fault : Fault)
  | streamRefused
  | unexpectedIndex (expected actual : Nat)
  | invalidTimeBase (timeBase : Rational)
  | headerFailed (fault : Fault)
  | trailerFailed (fault : Fault)
  | encoderTerminated
deriving DecidableEq, Repr

/-- The error in words. -/
def MuxError.message : MuxError → String
  | .openFailed url f => "Failed to open output " ++ url ++ ": " ++ f.text
  | .streamRefused => "Failed to allocate output stream"
  | .unexpectedIndex expected actual =>
    "Output stream got index " ++ toString actual ++ ", expected " ++ toString expected
  | .invalidTimeBase r => "Invalid stream time base " ++ r.text
  | .headerFailed f => "Failed to write container header: " ++ f.text
  | .trailerFailed f => "Failed to write container trailer: " ++ f.text
  | .encoderTerminated => "Encoder reached end of stream"

end Framecast

import Framecast.Encoder.Basic

/-!
# Scripted encoders

A `ScriptedEncoder` answers as its script says, to rehearse a session without a device. Without cues
for its packets it gives one for each frame it took, and some more at the end. A `PromptEncoder`
needs no script: it gives one packet for each frame and one more at the end.
-/

namespace Framecast

/-- The next entry of a list of faults, where nothing means success; an empty list has only
successes. -/
def nextFault : List (Option Fault) → Except Fault Unit × List (Option Fault)
  | [] => (.ok (), [])
  | none :: rest => (.ok (), rest)
  | some f :: rest => (.error f, rest)

/-- Success, unless there is a fault. -/
def unlessFault {α : Type} (a : α) : Option Fault → Except Fault α
  | none => .ok a
  | some f => .error f

/-- What a scripted encoder answers when asked for a packet. -/
inductive PacketCue
  | packet (size : Nat) (isKeyframe : Bool)
  | again
  | endOfStream
  | failed (fault : Fault)
deriving DecidableEq, Repr

/-- An encoder that follows a script. -/
structure ScriptedEncoder where
  name : String
  extradata : Option ByteArray := none
  /-- The answers still to be given for packets; none to answer each frame with one. -/
  cues : Option (List PacketCue) := none
  /-- The size of a packet that no cue asks for. -/
  size : Nat := 6
  /-- How many packets follow the last frame. -/
  tail : Nat := 1
  /-- The stream ends before the end of input. -/
  endsEarly : Bool := false
  /-- Answers to the next frames. -/
  sending : List (Option Fault) := []
  /-- The answer to the end of input, if it is a fault. -/
  ending : Option Fault := none
  /-- Frames taken that no packet has been given for. -/
  pending : Nat := 0
  /-- The end of input has been signalled. -/
  ended : Bool := false
  /-- Packets given so far. -/
  produced : Nat := 0

namespace ScriptedEncoder

/-- The data of the packet given after `n - 1` others: byte `i` is `n + i`. -/
def payload (n size : Nat) : ByteArray :=
  ⟨((List.range size).map fun i => UInt8.ofNat (n + i)).toArray⟩

/-- Give a packet. Its timestamps and its stream mean nothing. -/
def give (e : ScriptedEncoder) (size : Nat) (isKeyframe : Bool) : Received × ScriptedEncoder :=
  let n := e.produced + 1
  (.packet ⟨payload n size, -1, -1, isKeyframe, 99⟩, { e with produced := n })

/-- Take a frame. -/
def sendFrame (e : ScriptedEncoder) : Except Fault Unit × ScriptedEncoder :=
  match nextFault e.sending with
  | (.ok (), sending) => (.ok (), { e with sending, pending := e.pending + 1 })
  | (.error f, sending) => (.error f, { e with sending })

/-- Take note of the end of input. -/
def sendEnd (e : ScriptedEncoder) : Except Fault Unit × ScriptedEncoder :=
  match e.ending with
  | some f => (.error f, e)
  | none => (.ok (), { e with ended := true })

/-- The answer when there is nothing to give. -/
def rest (e : ScriptedEncoder) : Received × ScriptedEncoder :=
  if e.ended || e.endsEarly then (.endOfStream, e) else (.again, e)

/-- Give what the next cue says. -/
def perform (e : ScriptedEncoder) : PacketCue → Received × ScriptedEncoder
  | .packet size isKeyframe => e.give size isKeyframe
  | .again => (.again, e)
  | .endOfStream => (.endOfStream, e)
  | .failed f => (.failed f, e)

/-- Give the next packet. -/
def receive (e : ScriptedEncoder) : Received × ScriptedEncoder :=
  match e.cues with
  | some (cue :: cues) => { e with cues := some cues }.perform cue
  | some [] => e.rest
  | none =>
    if 0 < e.pending then { e with pending := e.pending - 1 }.give e.size (e.produced = 0)
    else if (e.ended || e.endsEarly) && 0 < e.tail then
      { e with tail := e.tail - 1 }.give e.size false
    else e.rest

/-- How many packets are left to give. -/
def backlog (e : ScriptedEncoder) : Nat :=
  match e.cues with
  | some cues => cues.length
  | none => e.pending + e.tail

/-- A packet that is given is one less to give. -/
theorem backlog_receive (e : ScriptedEncoder) (p : Packet) (e' : ScriptedEncoder)
    (h : e.receive = (.packet p, e')) : e'.backlog < e.backlog := by
  unfold receive at h
  split at h
  · rename_i cue cues hc
    cases cue with
    | packet size isKeyframe =>
      obtain ⟨-, rfl⟩ := Prod.mk.inj h
      simp [backlog, hc]
    | again => simp [perform] at h
    | endOfStream => simp [perform] at h
    | failed f => simp [perform] at h
  · simp only [rest] at h
    split at h <;> simp at h
  · rename_i hc
    split at h
    · obtain ⟨-, rfl⟩ := Prod.mk.inj h
      simp only [backlog, hc]
      omega
    · split at h
      · rename_i ht
        obtain ⟨-, rfl⟩ := Prod.mk.inj h
        simp only [Bool.and_eq_true, decide_eq_true_eq] at ht
        simp only [backlog, hc]
        omega
      · simp only [rest] at h
        split at h <;> simp at h

/-- A scripted encoder answers as its script says. -/
instance : Encoder ScriptedEncoder where
  name := name
  extradata := extradata
  sendFrame e _ := e.sendFrame
  sendEnd := sendEnd
  receive := receive
  backlog := backlog
  backlog_receive := backlog_receive

end ScriptedEncoder

/-- Codec headers as encoders write them. -/
def sampleHeaders : ByteArray := ⟨#[0, 0, 0, 1, 0x67]⟩

/-- An encoder that gives one packet for each frame and one more at the end. -/
structure PromptEncoder where
  extradata : Option ByteArray
  /-- Frames taken that no packet has been given for. -/
  pending : Nat := 0
  /-- There is no more input. -/
  ended : Bool
  /-- The packet at the end is still to be given. -/
  tail : Bool := true
  /-- Packets given so far. -/
  produced : Nat := 0

namespace PromptEncoder

/-- Give a packet; the first one is a keyframe. -/
def give (e : PromptEncoder) : Received × PromptEncoder :=
  (.packet ⟨⟨#[0, 0, 0, 1, 0x65, 0x88]⟩, 0, 0, e.produced = 0, 0⟩,
    { e with produced := e.produced + 1 })

/-- Give the next packet. -/
def receive (e : PromptEncoder) : Received × PromptEncoder :=
  if 0 < e.pending then { e with pending := e.pending - 1 }.give
  else if !e.ended then (.again, e)
  else if e.tail then { e with tail := false }.give
  else (.endOfStream, e)

/-- How many packets are left to give. -/
def backlog (e : PromptEncoder) : Nat := e.pending + e.tail.toNat

/-- A packet that is given is one less to give. -/
theorem backlog_receive (e : PromptEncoder) (p : Packet) (e' : PromptEncoder)
    (h : e.receive = (.packet p, e')) : e'.backlog < e.backlog := by
  unfold receive at h
  split at h
  · obtain ⟨-, rfl⟩ := Prod.mk.inj h
    simp only [backlog]
    omega
  · split at h
    · simp at h
    · split at h
      · rename_i ht
        obtain ⟨-, rfl⟩ := Prod.mk.inj h
        simp [backlog, ht]
      · simp at h

/-- A prompt encoder refuses nothing. -/
instance : Encoder PromptEncoder where
  name _ := "h264_nvenc"
  extradata := extradata
  sendFrame e _ := (.ok (), { e with pending := e.pending + 1 })
  sendEnd e := (.ok (), { e with ended := true })
  receive := receive
  backlog := backlog
  backlog_receive := backlog_receive

end PromptEncoder

end Framecast

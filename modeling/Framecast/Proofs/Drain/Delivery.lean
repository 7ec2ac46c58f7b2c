import Mathlib
import Framecast.Proofs.Drain.Climb
import Framecast.Proofs.Session.Reported
import Framecast.Proofs.Session.Sample

/-!
# What a drain cycle delivers

An encoder that is asked until it has no packet gives some packets and then another answer
(`Yields`). A drain cycle hands each of the packets to the container before it asks for the next
(`Passage`): the packet keeps its data and its mark, and its stamp is the wanted one, or the tick
after the last packet that was taken if that is later. The last packet may have been taken in an
earlier cycle, of another encoder and into another container: what a drain remembers is the stamp
of the last packet taken in its whole life (`Lifetime.lastDts_eq`).

A cycle completes unless a packet finds the last tick taken already (`Pulled.last_tick`).
-/

namespace Framecast

/-- An encoder that is asked until it has no packet gives these packets, in order, and then this
answer. -/
inductive Yields {ε : Type} [Encoder ε] : ε → List Packet → Received → ε → Prop
  /-- It has no packet. -/
  | ended {e e' : ε} {a : Received} {outcome : DrainOutcome}
      (received : Encoder.receive e = (a, e')) (ends : a.outcome? = some outcome) :
      Yields e [] a e'
  /-- It gives a packet, and is asked again. -/
  | packet {e e' e'' : ε} {p : Packet} {ps : List Packet} {a : Received}
      (received : Encoder.receive e = (.packet p, e')) (rest : Yields e' ps a e'') :
      Yields e (p :: ps) a e''

/-- An encoder that gives a packet yields it first. -/
theorem Yields.of_packet {ε : Type} [Encoder ε] {e e' e'' : ε} {p : Packet} {ps : List Packet}
    {a : Received} (h : Yields e ps a e'') (received : Encoder.receive e = (.packet p, e')) :
    ∃ rest, ps = p :: rest ∧ Yields e' rest a e'' := by
  cases h with
  | ended received' ends =>
    obtain ⟨rfl, -⟩ := Prod.mk.inj (received.symm.trans received')
    cases ends
  | packet received' rest =>
    obtain ⟨hp, rfl⟩ := Prod.mk.inj (received.symm.trans received')
    obtain rfl := Received.packet.inj hp
    exact ⟨_, rfl, rest⟩

/-- An encoder that has no packet yields none. -/
theorem Yields.of_ended {ε : Type} [Encoder ε] {e e' e'' : ε} {ps : List Packet} {a a' : Received}
    {outcome : DrainOutcome} (h : Yields e ps a e'') (received : Encoder.receive e = (a', e'))
    (ends : a'.outcome? = some outcome) : ps = [] ∧ a = a' ∧ e'' = e' := by
  cases h with
  | ended received' _ =>
    obtain ⟨rfl, rfl⟩ := Prod.mk.inj (received.symm.trans received')
    exact ⟨rfl, rfl, rfl⟩
  | packet received' _ =>
    obtain ⟨rfl, -⟩ := Prod.mk.inj (received.symm.trans received')
    cases ends

/-- A packet that passes from the encoder to the container. -/
structure Passage where
  /-- The packet as it is received. -/
  packet : Packet
  /-- The stamp it is handed on with. -/
  stamp : Int64
  /-- What the container says to it. -/
  answer : Except Fault Unit

namespace Passage

/-- The packet as it is handed on. -/
def handed (stream : Nat) (w : Passage) : Packet := w.packet.stamped stream w.stamp

/-- The calls of a passage. -/
def calls (stream : Nat) (w : Passage) : List Call :=
  [.receive (.packet w.packet), .writePacket (w.handed stream) w.answer]

end Passage

/-- The decoding time of the last packet that a container took in these calls. -/
def lastDecoded (calls : List Call) : Option Int64 :=
  (calls.filterMap Call.taken?).getLast?.map Packet.dts

/-- Calls that write no packet leave the last decoding time alone. -/
theorem lastDecoded_append {more : List Call} (h : more.filterMap Call.taken? = [])
    (calls : List Call) : lastDecoded (calls ++ more) = lastDecoded calls := by
  unfold lastDecoded
  rw [List.filterMap_append, h, List.append_nil]

/-- A packet that is taken is the last one. -/
theorem lastDecoded_taken (calls : List Call) (w : Passage) (stream : Nat)
    (taken : w.answer = .ok ()) : lastDecoded (calls ++ w.calls stream) = some w.stamp := by
  have htaken : (w.calls stream).filterMap Call.taken? = [w.handed stream] := by
    unfold Passage.calls
    rw [taken]
    rfl
  unfold lastDecoded
  rw [List.filterMap_append, htaken, List.getLast?_concat]
  rfl

/-- A packet that is refused leaves the last decoding time alone. -/
theorem lastDecoded_refused (calls : List Call) (w : Passage) (stream : Nat) {f : Fault}
    (refused : w.answer = .error f) :
    lastDecoded (calls ++ w.calls stream) = lastDecoded calls := by
  apply lastDecoded_append
  unfold Passage.calls
  rw [refused]
  rfl

/-- The last decoding time is that of a packet that was taken. -/
theorem mem_of_lastDecoded {calls : List Call} {t : Int64} (h : lastDecoded calls = some t) :
    t ∈ (calls.filterMap Call.taken?).map Packet.dts := by
  unfold lastDecoded at h
  obtain ⟨p, hp, ht⟩ := Option.map_eq_some_iff.mp h
  exact List.mem_map.mpr ⟨p, List.mem_of_getLast? hp, ht⟩

/-- Only the last tick has none after it. -/
theorem last_of_nextStamp_error {last : Option Int64} {wanted : Int64} {x : Overflow}
    (h : nextStamp last wanted = .error x) : last = some Int64.maxValue := by
  unfold nextStamp tickAfter at h
  cases last with
  | none => cases h
  | some t =>
    dsimp only at h
    split at h
    · split at h
      · rename_i hmax
        rw [hmax]
      · cases h
    · cases h

section

variable {ε κ : Type} [Encoder ε] [Container κ]

/-- The container is handed these packets one after the other, and says to each what is told. -/
inductive Answered (stream : Nat) : κ → List Passage → κ → Prop
  /-- It is handed nothing. -/
  | nothing (c : κ) : Answered stream c [] c
  /-- It is handed a packet, and then the others. -/
  | packet {c c' c'' : κ} {w : Passage} {ws : List Passage}
      (written : Container.writePacket c (w.handed stream) = (w.answer, c'))
      (rest : Answered stream c' ws c'') : Answered stream c (w :: ws) c''

/-- The stamps of packets that pass after some calls: each is the wanted one or, if that is later,
the tick after the last packet that was taken. -/
def Climbing (stream : Nat) (wanted : Int) (before : List Call) (ws : List Passage) : Prop :=
  ∀ earlier w later, ws = earlier ++ w :: later →
    w.stamp.toInt =
      climbFrom ((lastDecoded (before ++ earlier.flatMap (Passage.calls stream))).map Int64.toInt)
        wanted

/-- The stamps climb if the first one does, and the others do after its calls. -/
theorem Climbing.cons {stream : Nat} {wanted : Int} {before : List Call} {w : Passage}
    {ws : List Passage}
    (first : w.stamp.toInt = climbFrom ((lastDecoded before).map Int64.toInt) wanted)
    (rest : Climbing stream wanted (before ++ w.calls stream) ws) :
    Climbing stream wanted before (w :: ws) := by
  intro earlier v later h
  cases earlier with
  | nil =>
    obtain ⟨rfl, -⟩ := List.cons.inj h
    rw [List.flatMap_nil, List.append_nil]
    exact first
  | cons u earlier =>
    obtain ⟨rfl, hws⟩ := List.cons.inj h
    rw [List.flatMap_cons, ← List.append_assoc]
    exact rest earlier v later hws

/-- These packets pass from an encoder that yields them to the container, whose state goes from `c`
to `c'`. The calls before them tell which packet was taken last. -/
structure Delivery (before calls : List Call) (stream : Nat) (wanted : Int) (ps : List Packet)
    (a : Received) (c : κ) (ws : List Passage) (c' : κ) : Prop where
  /-- Every packet passes, once and in order. -/
  packets : ws.map Passage.packet = ps
  /-- Each is handed on before the next is asked for, and nothing else is called. -/
  calls_eq : calls = ws.flatMap (Passage.calls stream) ++ [.receive a]
  /-- Their stamps climb from the wanted one. -/
  climbing : Climbing stream wanted before ws
  /-- The container says to each what is told. -/
  answered : Answered stream c ws c'

/-- A packet passes, and then the others. -/
theorem Delivery.cons {before calls : List Call} {stream : Nat} {wanted : Int} {ps : List Packet}
    {a : Received} {c c' c'' : κ} {w : Passage} {ws : List Passage}
    (first : w.stamp.toInt = climbFrom ((lastDecoded before).map Int64.toInt) wanted)
    (written : Container.writePacket c (w.handed stream) = (w.answer, c'))
    (rest : Delivery (before ++ w.calls stream) calls stream wanted ps a c' ws c'') :
    Delivery before (w.calls stream ++ calls) stream wanted (w.packet :: ps) a c (w :: ws) c'' := by
  constructor
  · rw [List.map_cons, rest.packets]
  · rw [List.flatMap_cons, List.append_assoc, ← rest.calls_eq]
  · exact rest.climbing.cons first
  · exact .packet written rest.answered

/-! ## The loop -/

variable {stream : Nat} {stamp : Int64} {e e' e'' : ε} {o o' : Outlet κ} {before calls : List Call}
  {r : Except Overflow DrainOutcome} {ps : List Packet} {a : Received}

/-- The outlet remembers the last packet that was taken, while packets are pulled. -/
theorem Pulled.lastDecoded (pulled : Pulled stream stamp e o calls r e' o')
    (h : o.lastDts = lastDecoded before) :
    o'.lastDts = Framecast.lastDecoded (before ++ calls) := by
  induction pulled generalizing before with
  | @taken e e' e'' o o'' p ts c calls r received next written rest ih =>
    have htaken := lastDecoded_taken before ⟨p, ts, .ok ()⟩ stream rfl
    have h' := ih htaken.symm
    rw [List.append_assoc] at h'
    exact h'
  | @refused e e' e'' o o'' p ts f c calls r received next written rest ih =>
    have hrefused := lastDecoded_refused before ⟨p, ts, .error f⟩ stream rfl
    have h' := ih (h.trans hrefused.symm)
    rw [List.append_assoc] at h'
    exact h'
  | overflowed received next => exact h.trans (lastDecoded_append rfl before).symm
  | @stopped e e' o a outcome received ends =>
    refine h.trans (lastDecoded_append ?_ before).symm
    cases a <;> rfl

/-- A run of the loop that completes delivers what the encoder yields. The induction is on the run;
the encoder yields one packet less after each. -/
theorem Pulled.delivery (pulled : Pulled stream stamp e o calls r e' o') {outcome : DrainOutcome}
    (completes : r = .ok outcome) (yields : Yields e ps a e'')
    (h : o.lastDts = Framecast.lastDecoded before) :
    e' = e'' ∧ a.outcome? = some outcome ∧
      ∃ ws, Delivery before calls stream stamp.toInt ps a o.container ws o'.container ∧
        o'.written + o'.writeFailures = o.written + o.writeFailures + ws.length := by
  induction pulled generalizing before ps with
  | @taken e e₁ e₂ o o₂ p ts c calls r received next written rest ih =>
    obtain ⟨others, rfl, hothers⟩ := yields.of_packet received
    have hstamp := toInt_nextStamp next
    rw [h] at hstamp
    have htaken := lastDecoded_taken before ⟨p, ts, .ok ()⟩ stream rfl
    obtain ⟨he, ha, ws, hws, hcount⟩ := ih completes hothers htaken.symm
    refine ⟨he, ha, _, hws.cons (w := ⟨p, ts, .ok ()⟩) hstamp written, ?_⟩
    unfold Outlet.taking at hcount
    dsimp only at hcount
    rw [List.length_cons]
    omega
  | @refused e e₁ e₂ o o₂ p ts f c calls r received next written rest ih =>
    obtain ⟨others, rfl, hothers⟩ := yields.of_packet received
    have hstamp := toInt_nextStamp next
    rw [h] at hstamp
    have hrefused := lastDecoded_refused before ⟨p, ts, .error f⟩ stream rfl
    obtain ⟨he, ha, ws, hws, hcount⟩ := ih completes hothers (h.trans hrefused.symm)
    refine ⟨he, ha, _, hws.cons (w := ⟨p, ts, .error f⟩) hstamp written, ?_⟩
    unfold Outlet.refusing at hcount
    dsimp only at hcount
    rw [List.length_cons]
    omega
  | overflowed received next => cases completes
  | @stopped e e₁ o a₁ outcome₁ received ends =>
    obtain ⟨rfl, rfl, rfl⟩ := yields.of_ended received ends
    obtain rfl := Except.ok.inj completes
    refine ⟨rfl, ends, [], ⟨rfl, rfl, ?_, .nothing _⟩, rfl⟩
    intro earlier w later hnil
    exact absurd hnil.symm (by simp)

/-- A run of the loop overflows only at a packet that finds the last tick taken. -/
theorem Pulled.last_tick (pulled : Pulled stream stamp e o calls r e' o') {x : Overflow}
    (overflow : r = .error x) (h : o.lastDts = Framecast.lastDecoded before) :
    ∃ earlier p, calls = earlier ++ [.receive (.packet p)] ∧
      Framecast.lastDecoded (before ++ earlier) = some Int64.maxValue := by
  induction pulled generalizing before with
  | @taken e e₁ e₂ o o₂ p ts c calls r received next written rest ih =>
    have htaken := lastDecoded_taken before ⟨p, ts, .ok ()⟩ stream rfl
    obtain ⟨earlier, q, hcalls, hlast⟩ := ih overflow htaken.symm
    refine ⟨Passage.calls stream ⟨p, ts, .ok ()⟩ ++ earlier, q, ?_, ?_⟩
    · rw [hcalls]
      rfl
    · rw [← List.append_assoc]
      exact hlast
  | @refused e e₁ e₂ o o₂ p ts f c calls r received next written rest ih =>
    have hrefused := lastDecoded_refused before ⟨p, ts, .error f⟩ stream rfl
    obtain ⟨earlier, q, hcalls, hlast⟩ := ih overflow (h.trans hrefused.symm)
    refine ⟨Passage.calls stream ⟨p, ts, .error f⟩ ++ earlier, q, ?_, ?_⟩
    · rw [hcalls]
      rfl
    · rw [← List.append_assoc]
      exact hlast
  | @overflowed e e₁ o p x₁ received next =>
    refine ⟨[], p, rfl, ?_⟩
    rw [List.append_nil, ← h]
    exact last_of_nextStamp_error next
  | stopped received ends => cases overflow

/-! ## A cycle -/

/-- A cycle of a drain that is not terminal, in which no packet finds the last tick taken, is
complete. -/
theorem Cycled.settles {d : PacketDrain} {e : ε} {timeBase : Rational} {stream : OutputStream}
    {pts : Int64} {c : κ} {before calls : List Call} {drained : Drained ε κ}
    (h : Cycled d e timeBase stream pts c calls drained) (live : d.state ≠ .terminal)
    (last : d.lastDts = lastDecoded before)
    (fits : ∀ earlier p later, calls = earlier ++ .receive (.packet p) :: later →
      lastDecoded (before ++ earlier) ≠ some Int64.maxValue) :
    ∃ outcome e' o,
      Pulled stream.index (cycleStamp c stream timeBase pts) e (d.outlet c) calls (.ok outcome) e'
        o ∧
      drained = ⟨.ok (.ok ⟨o.written, o.bytes, o.writeFailures, outcome⟩), d.settle o outcome, e',
        o.container⟩ := by
  cases h with
  | terminated terminal => exact absurd (of_decide_eq_true terminal) live
  | overflowed _ pulled =>
    obtain ⟨earlier, p, hcalls, hlast⟩ := pulled.last_tick rfl last
    exact absurd hlast (fits earlier p [] hcalls)
  | settled _ pulled => exact ⟨_, _, _, pulled, rfl⟩

end

/-! ## The life of a drain -/

namespace PacketDrain

/-- The life of a drain and the calls made in it: it is new, and then goes through cycles, each with
an encoder, a stream and a container of its own. -/
inductive Lifetime : List Call → PacketDrain → Prop
  /-- It is new. -/
  | new : Lifetime [] {}
  /-- It goes through a cycle. -/
  | cycled {before : List Call} {d : PacketDrain} (h : Lifetime before d) {ε κ : Type} [Encoder ε]
      [Container κ] (e : ε) (timeBase : Rational) (stream : OutputStream) (pts : Int64) (c : κ) :
      Lifetime (before ++ (d.cycle e timeBase stream pts c).calls)
        (d.cycle e timeBase stream pts c).value.drain

/-- A drain remembers the last packet that was taken in its life. -/
theorem Lifetime.lastDts_eq {calls : List Call} {d : PacketDrain} (h : Lifetime calls d) :
    d.lastDts = lastDecoded calls := by
  induction h with
  | new => rfl
  | @cycled before d _ ε κ _ _ e timeBase stream pts c ih =>
    have hcycled := cycle_cycled d e timeBase stream pts c
    generalize (d.cycle e timeBase stream pts c).calls = calls at hcycled
    generalize (d.cycle e timeBase stream pts c).value = drained at hcycled
    cases hcycled with
    | terminated _ =>
      rw [List.append_nil]
      exact ih
    | overflowed _ pulled => exact pulled.lastDecoded ih
    | settled _ pulled => exact pulled.lastDecoded ih

variable {ε κ : Type} [Encoder ε] [Container κ]

/-- What a drain does in a cycle. A drain that is terminal refuses and calls nothing. Any other one,
when the encoder yields `ps` and then `a`, and no packet finds the last tick taken, completes:

* it asks the encoder once for each packet and once more, and hands each packet to the container
  before it asks for the next, marked with the stream and with its data and its mark as they were;
* a packet is presented and decoded at the last frame's time, in the time base in which the
  container writes the stream, or one tick after the last packet ever taken from the drain if that
  is later;
* the report counts the packets taken and refused, which are all packets, and the bytes taken; its
  outcome is that of `a`, the drain is terminal exactly after the end of stream, and its counts grow
  by those of the report. -/
theorem cycle_delivers {before : List Call} {d : PacketDrain} (lifetime : Lifetime before d) (e : ε)
    (timeBase : Rational) (stream : OutputStream) (pts : Int64) (c : κ) :
    let ran := d.cycle e timeBase stream pts c
    let wanted := Rational.rescale pts timeBase
      ((Container.timeBase? c stream.index).getD stream.timeBase)
    (d.state = .terminal → ran = pure ⟨.ok (.error .encoderTerminated), d, e, c⟩) ∧
    (d.state ≠ .terminal → ∀ ps a e', Yields e ps a e' →
      (∀ earlier p later, ran.calls = earlier ++ .receive (.packet p) :: later →
        lastDecoded (before ++ earlier) ≠ some Int64.maxValue) →
      ∃ ws report,
        Delivery before ran.calls stream.index wanted.toInt ps a c ws ran.value.container ∧
        ran.value.encoder = e' ∧
        ran.value.result = .ok (.ok report) ∧
        report.written = (ran.calls.filterMap Call.taken?).length ∧
        report.writeFailures = (ran.calls.filterMap Call.refused?).length ∧
        report.written + report.writeFailures = ps.length ∧
        report.bytes = takenBytes ran.calls ∧
        a.outcome? = some report.outcome ∧
        ran.value.drain.state = (if a = .endOfStream then .terminal else .idle) ∧
        ran.value.drain.packetsWritten = d.packetsWritten + report.written ∧
        ran.value.drain.writeFailures = d.writeFailures + report.writeFailures) := by
  intro ran wanted
  constructor
  · intro terminal
    have ht : d.isTerminal = true := decide_eq_true terminal
    show d.cycle e timeBase stream pts c = _
    unfold cycle
    rw [if_pos ht]
  · intro live ps a e' yields fits
    have hcycled : Cycled d e timeBase stream pts c ran.calls ran.value :=
      cycle_cycled d e timeBase stream pts c
    generalize ran.calls = calls at hcycled fits ⊢
    generalize ran.value = drained at hcycled ⊢
    obtain ⟨outcome, e₁, o, pulled, rfl⟩ := hcycled.settles live lifetime.lastDts_eq fits
    -- What the packets were given, and what the outlet counted of them, settle the rest.
    obtain ⟨he, ha, ws, hws, hcount⟩ := pulled.delivery rfl yields lifetime.lastDts_eq
    obtain ⟨-, hwritten, hfailed⟩ := pulled.tally
    have hbytes := pulled.bytes
    unfold outlet at hcount hwritten hfailed hbytes
    dsimp only at hcount hwritten hfailed hbytes
    have hpackets : ws.length = ps.length := by rw [← hws.packets, List.length_map]
    have hends : outcome = .endOfStream ↔ a = .endOfStream := by
      cases a <;> cases ha <;> simp
    refine ⟨ws, _, hws, he, rfl, ?_, ?_, ?_, ?_, ha, ?_, rfl, rfl⟩
    · show o.written = _
      omega
    · show o.writeFailures = _
      omega
    · show o.written + o.writeFailures = _
      omega
    · show o.bytes = _
      omega
    · show (if outcome = .endOfStream then DrainState.terminal else .idle) = _
      simp only [hends]

/-- A container of one stream that refuses the third packet it is handed. -/
def refusingThird : ScriptedContainer :=
  { memory := { streams := #[sampleSession.bound.config.streamSpec none], lastDts := #[none],
                headerWritten := true }
    writing := [none, none, some ⟨-5, "disk full"⟩] }

/-- An encoder that gives three packets at the end of the stream. -/
def burstEncoder : ScriptedEncoder :=
  { name := "h264_nvenc"
    cues := some [.packet 2 false, .packet 3 false, .packet 4 false, .endOfStream] }

/-- The first cycle of a drain, in which one packet is taken. -/
def firstCycle : Journaled (Drained ScriptedEncoder ScriptedContainer) :=
  ({} : PacketDrain).cycle { name := "h264_nvenc", cues := some [.packet 4 true, .again] }
    .microsecond ⟨0, .microsecond, ⟨60, 1⟩⟩ 0 refusingThird

/-- The next cycle of the drain, for a frame of the same time. -/
def burstCycle : Journaled (Drained ScriptedEncoder ScriptedContainer) :=
  firstCycle.value.drain.cycle burstEncoder .microsecond ⟨0, .microsecond, ⟨60, 1⟩⟩ 0
    firstCycle.value.container

/-- The packets that it gives. -/
def burstPackets : List Packet :=
  [⟨ScriptedEncoder.payload 1 2, -1, -1, false, 99⟩, ⟨ScriptedEncoder.payload 2 3, -1, -1, false, 99⟩,
    ⟨ScriptedEncoder.payload 3 4, -1, -1, false, 99⟩]

/-- Of a burst of three packets the second is refused, and leaves its tick to the third. -/
theorem cycle_delivers_sample :
    firstCycle.value.drain.state ≠ .terminal ∧
      Yields burstEncoder burstPackets .endOfStream
        { burstEncoder with cues := some [], produced := 3 } ∧
      (∀ earlier p later, burstCycle.calls = earlier ++ .receive (.packet p) :: later →
        lastDecoded (firstCycle.calls ++ earlier) ≠ some Int64.maxValue) ∧
      (burstCycle.calls.filterMap Call.handed?).map Packet.dts = [1, 2, 2] ∧
      ∃ ws report,
        Delivery firstCycle.calls burstCycle.calls 0 0 burstPackets .endOfStream
          firstCycle.value.container ws burstCycle.value.container ∧
        burstCycle.value.result = .ok (.ok report) ∧
        report.written = 2 ∧ report.writeFailures = 1 ∧
        burstCycle.value.drain.state = .terminal := by
  have hlifetime : Lifetime firstCycle.calls firstCycle.value.drain :=
    .cycled (ε := ScriptedEncoder) (κ := ScriptedContainer) .new _ _ _ _ _
  have hlive : firstCycle.value.drain.state ≠ .terminal := by
    have hstate : firstCycle.value.drain.state = .idle := by cbv
    rw [hstate]
    decide
  have hyields : Yields burstEncoder burstPackets .endOfStream
      { burstEncoder with cues := some [], produced := 3 } :=
    .packet rfl (.packet rfl (.packet rfl (.ended rfl rfl)))
  have htaken : ((firstCycle.calls ++ burstCycle.calls).filterMap Call.taken?).map Packet.dts =
      [0, 1, 2] := by
    cbv
  -- A last decoding time is one of those three.
  have hfits : ∀ earlier p later, burstCycle.calls = earlier ++ .receive (.packet p) :: later →
      lastDecoded (firstCycle.calls ++ earlier) ≠ some Int64.maxValue := by
    intro earlier p later hcalls hlast
    have hmem := mem_of_lastDecoded hlast
    rw [hcalls, ← List.append_assoc, List.filterMap_append, List.map_append] at htaken
    have hmem' : Int64.maxValue ∈ [(0 : Int64), 1, 2] := by
      rw [← htaken]
      exact List.mem_append_left _ hmem
    revert hmem'
    decide
  have hwanted : (Rational.rescale 0 .microsecond
      ((Container.timeBase? firstCycle.value.container 0).getD .microsecond)).toInt = 0 := by
    cbv
  have hwritten : (burstCycle.calls.filterMap Call.taken?).length = 2 := by cbv
  have hrefused : (burstCycle.calls.filterMap Call.refused?).length = 1 := by cbv
  obtain ⟨-, hdelivers⟩ := cycle_delivers hlifetime burstEncoder .microsecond
    ⟨0, .microsecond, ⟨60, 1⟩⟩ 0 firstCycle.value.container
  obtain ⟨ws, report, hws, -, hresult, hw, hf, -, -, -, hstate, -, -⟩ :=
    hdelivers hlive _ _ _ hyields hfits
  rw [hwanted] at hws
  exact ⟨hlive, hyields, hfits, by cbv, ws, report, hws, hresult, hw.trans hwritten,
    hf.trans hrefused, hstate⟩

end PacketDrain

end Framecast

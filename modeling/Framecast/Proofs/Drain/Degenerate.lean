import Mathlib
import Framecast.Proofs.Drain.Drift
import Framecast.Proofs.Session.Sample
import Framecast.Proofs.Time.Nearest
import Framecast.Proofs.Time.Wide

/-!
# Degenerate time bases

A time base with a term that is zero says nothing about the length of a tick. Where that zero would
stand in the divisor of a timestamp that is rescaled, the timestamp is left as it is; where it would
stand in the dividend, every timestamp becomes zero (`Rational.rescale_of_degenerate`).

A drain wants the one or the other for its packets. In the one case frames that come one after the
other give their own times to their packets. In the other case the times of frames are lost, and all
that the stamps of packets tell is how many were taken before (`stamps_in_degenerate_bases`).
-/

namespace Framecast

namespace Rational

/-- One of the terms is zero. -/
def IsDegenerate (r : Rational) : Prop := r.num = 0 ∨ r.den = 0

/-- In degenerate bases a timestamp is left as it is if the zero would stand in the divisor, and is
zero otherwise. -/
theorem rescale_of_degenerate {source target : Rational}
    (degenerate : source.IsDegenerate ∨ target.IsDegenerate) (ts : Int64) :
    rescale ts source target = if source.den = 0 ∨ target.num = 0 then ts else 0 := by
  unfold rescale
  split
  · rfl
  · rename_i hdivisor
    obtain ⟨hden, hnum⟩ := not_or.mp hdivisor
    -- Of the four terms two are in the divisor, so that the zero is one of the others.
    have hterm : source.num = 0 ∨ target.den = 0 := by
      rcases degenerate with (h | h) | (h | h)
      · exact .inl h
      · exact absurd h hden
      · exact absurd h hnum
      · exact .inr h
    have hdividend : ts.toInt * source.num.toInt * target.den.toInt = 0 := by
      rcases hterm with h | h
      · rw [h, Int32.toInt_zero, mul_zero, zero_mul]
      · rw [h, Int32.toInt_zero, mul_zero]
    rw [hdividend, roundedQuotient_zero (mul_ne_zero (toInt_ne_zero hden) (toInt_ne_zero hnum))]
    rfl

end Rational

/-! ## Wanted stamps that increase, and wanted stamps that are all zero -/

section

variable {earlier : List Writing} {w : Writing}

/-- A packet whose wanted stamp comes after those of the packets that were taken has that stamp, if
those came one after the other. -/
theorem Writing.StampedAfter.of_increasing (h : w.StampedAfter earlier)
    (increasing : (wantedOf earlier ++ [w.wanted.toInt]).Pairwise (· < ·)) :
    w.packet.dts = w.wanted := by
  unfold StampedAfter at h
  rw [climb_of_increasing increasing,
    climb_of_increasing (List.pairwise_append.mp increasing).1] at h
  have hlast := List.singleton_inj.mp (List.append_cancel_left h)
  exact (Int64.toInt_inj.mp hlast).symm

/-- Where all stamps are wanted at zero, the stamp of a packet is the number of packets taken before
it. -/
theorem Writing.StampedAfter.of_zero (h : w.StampedAfter earlier)
    (zeros : ∀ v ∈ earlier, v.wanted = 0) (zero : w.wanted = 0) :
    w.packet.dts.toInt = (takenOf earlier).length := by
  have hwanted : wantedOf earlier = List.replicate (takenOf earlier).length 0 := by
    unfold wantedOf
    rw [List.map_eq_replicate_iff]
    intro v hv
    rw [zeros v (List.mem_of_mem_filter hv)]
    rfl
  have hzero : w.wanted.toInt = 0 := congrArg Int64.toInt zero
  -- Both sides count up from zero, and the packet has the last number.
  unfold StampedAfter at h
  rw [hwanted, hzero, ← List.replicate_succ', climb_replicate_zero, climb_replicate_zero,
    List.range_succ, List.map_append, List.map_singleton] at h
  exact (List.singleton_inj.mp (List.append_cancel_left h)).symm

end

/-! ## A drain between two bases -/

/-- A packet that is handed to a container in the cycle of a frame. -/
structure Framed where
  /-- The time of the frame. -/
  pts : Int64
  /-- The packet with the stamp that it has. -/
  packet : Packet
  /-- What the container says to it. -/
  answer : Except Fault Unit

/-- The container took the packet. -/
def Framed.isTaken (w : Framed) : Bool := w.answer.isOk

/-- The packet with the stamp that is wanted for it. -/
def Framed.writing (source target : Rational) (w : Framed) : Writing :=
  ⟨Rational.rescale w.pts source target, w.packet, w.answer⟩

/-- The packet that is handed on in a call, in the cycle of a frame of this time. -/
def Call.framed? (pts : Int64) : Call → Option Framed
  | .writePacket p answer => some ⟨pts, p, answer⟩
  | _ => none

/-- The stamp that is wanted in a cycle is the rescaled time of its frame. -/
theorem map_writing_framed (source target : Rational) (pts : Int64) (calls : List Call) :
    (calls.filterMap (Call.framed? pts)).map (Framed.writing source target) =
      calls.filterMap (Call.writing? (Rational.rescale pts source target)) := by
  rw [List.map_filterMap]
  congr 1
  funext c
  cases c <;> rfl

/-- What was taken is the same with the stamps that were wanted. -/
theorem takenOf_map_writing (source target : Rational) (ws : List Framed) :
    takenOf (ws.map (Framed.writing source target)) =
      (ws.filter Framed.isTaken).map (Framed.writing source target) :=
  List.filter_map

/-- The stamps that were wanted for what was taken are the rescaled times of its frames. -/
theorem wantedOf_map_writing (source target : Rational) (ws : List Framed) :
    wantedOf (ws.map (Framed.writing source target)) =
      (ws.filter Framed.isTaken).map fun w => (Rational.rescale w.pts source target).toInt := by
  unfold wantedOf
  rw [takenOf_map_writing, List.map_map]
  rfl

/-- A cycle that is not refused, and in which no packet finds the last tick taken, delivers what the
encoder yields. -/
theorem Cycled.delivery {ε κ : Type} [Encoder ε] [Container κ] {d : PacketDrain} {e e' : ε}
    {timeBase : Rational} {stream : OutputStream} {pts : Int64} {c : κ} {before calls : List Call}
    {drained : Drained ε κ} {ps : List Packet} {a : Received}
    (h : Cycled d e timeBase stream pts c calls drained)
    (live : d.state ≠ .terminal) (last : d.lastDts = lastDecoded before) (yields : Yields e ps a e')
    (fits : ∀ earlier p later, calls = earlier ++ .receive (.packet p) :: later →
      lastDecoded (before ++ earlier) ≠ some Int64.maxValue) :
    ∃ ws report, drained.result = .ok (.ok report) ∧
      Delivery before calls stream.index (cycleStamp c stream timeBase pts).toInt ps a c ws
        drained.container := by
  obtain ⟨outcome, e₁, o, pulled, rfl⟩ := h.settles live last fits
  obtain ⟨-, -, ws, hws, -⟩ := pulled.delivery rfl yields last
  exact ⟨ws, _, rfl, hws⟩

namespace PacketDrain

/-- A drain and all packets that were handed on in its life: it is new, and then goes through
cycles, each with an encoder, a stream and a container of its own. The times of frames are given in
base `source`, and the containers write in base `target`. -/
inductive Between (source target : Rational) : List Framed → PacketDrain → Prop
  /-- It is new. -/
  | new : Between source target [] {}
  /-- It goes through a cycle. -/
  | cycled {ws : List Framed} {d : PacketDrain} (h : Between source target ws d) {ε κ : Type}
      [Encoder ε] [Container κ] (e : ε) (stream : OutputStream) (pts : Int64) (c : κ)
      (writes : (Container.timeBase? c stream.index).getD stream.timeBase = target) :
      Between source target
        (ws ++ (d.cycle e source stream pts c).calls.filterMap (Call.framed? pts))
        (d.cycle e source stream pts c).value.drain

variable {source target : Rational} {ws : List Framed} {d : PacketDrain}

/-- Its life is that of a drain that wants the rescaled times of frames. -/
theorem Between.written (h : Between source target ws d) :
    Written (ws.map (Framed.writing source target)) d := by
  induction h with
  | new => exact .new
  | cycled _ e stream pts c writes ih =>
    have hcycle := ih.cycled e source stream pts c
    have hstamp : cycleStamp c stream source pts = Rational.rescale pts source target :=
      congrArg _ writes
    rw [hstamp, ← map_writing_framed, ← List.map_append] at hcycle
    exact hcycle

/-- Each of the packets is presented when it is decoded, and is stamped after those that were taken
before it. -/
theorem Between.stamped (h : Between source target ws d) {earlier later : List Framed} {w : Framed}
    (split : ws = earlier ++ w :: later) :
    w.packet.pts = w.packet.dts ∧
      (w.writing source target).StampedAfter (earlier.map (Framed.writing source target)) := by
  have hwritings : ws.map (Framed.writing source target) =
      earlier.map (Framed.writing source target) ++
        w.writing source target :: later.map (Framed.writing source target) := by
    rw [split, List.map_append, List.map_cons]
  exact h.written.climbed.each _ _ _ hwritings

/-- Where rescaling leaves times as they are, frames that come one after the other give their own
times to their packets. A packet that was refused may have come at any time. -/
theorem Between.own_times (h : Between source target ws d)
    (kept : ∀ ts, Rational.rescale ts source target = ts)
    (increasing : ws.Pairwise fun v w => v.isTaken = true → v.pts < w.pts) {w : Framed}
    (mem : w ∈ ws) : w.packet.pts = w.pts ∧ w.packet.dts = w.pts := by
  obtain ⟨earlier, later, rfl⟩ := List.append_of_mem mem
  obtain ⟨hsame, hafter⟩ := h.stamped rfl
  obtain ⟨hearlier, -, hlater⟩ := List.pairwise_append.mp increasing
  -- What is wanted are the times of the frames, which increase from one packet taken to the next.
  have hwanted : (w.writing source target).wanted = w.pts := kept w.pts
  have htimes : wantedOf (earlier.map (Framed.writing source target)) =
      (earlier.filter Framed.isTaken).map (·.pts.toInt) := by
    rw [wantedOf_map_writing]
    simp only [kept]
  have hincreasing : (wantedOf (earlier.map (Framed.writing source target)) ++
      [(w.writing source target).wanted.toInt]).Pairwise (· < ·) := by
    rw [htimes, hwanted, List.pairwise_append, List.pairwise_map, List.pairwise_filter]
    refine ⟨hearlier.imp ?_, List.pairwise_singleton _ _, ?_⟩
    · intro u v huv taken _
      exact Int64.lt_iff_toInt_lt.mp (huv taken)
    · intro x hx y hy
      obtain ⟨v, hv, rfl⟩ := List.mem_map.mp hx
      obtain ⟨hmem, htaken⟩ := List.mem_filter.mp hv
      obtain rfl := List.mem_singleton.mp hy
      exact Int64.lt_iff_toInt_lt.mp (hlater v hmem w List.mem_cons_self htaken)
  have hdts := (hafter.of_increasing hincreasing).trans hwanted
  exact ⟨hsame.trans hdts, hdts⟩

/-- Where rescaling makes all times zero, packets are numbered: each is stamped with the number of
packets that were taken before it. -/
theorem Between.numbered (h : Between source target ws d)
    (lost : ∀ ts, Rational.rescale ts source target = 0) {earlier later : List Framed} {w : Framed}
    (split : ws = earlier ++ w :: later) :
    w.packet.pts = w.packet.dts ∧
      w.packet.dts.toInt = (earlier.filter Framed.isTaken).length := by
  obtain ⟨hsame, hafter⟩ := h.stamped split
  have hnumber := hafter.of_zero (List.forall_mem_map.mpr fun v _ => lost v.pts) (lost w.pts)
  rw [takenOf_map_writing, List.length_map] at hnumber
  exact ⟨hsame, hnumber⟩

/-- What degenerate bases do to timestamps. Rescaling between them has a result within 128 bits: the
timestamp itself if the denominator of the base it is given in is zero, or the numerator of the base
it is wanted in, and zero in all other cases. So in a drain whose container writes in such a base,
or that is given times in such a base:

* a cycle that is not refused, and in which no packet finds the last tick taken, delivers every
  packet that the encoder yields; the wanted stamp is the frame's own time in the first case, and
  zero in the others;
* over its whole life, in the first case, packets have the times of their frames, if each frame
  comes after those whose packets were taken before;
* in the others, whatever the times of the frames are, a packet is stamped with the number of
  packets that were taken before it. -/
theorem stamps_in_degenerate_bases (degenerate : source.IsDegenerate ∨ target.IsDegenerate) :
    (∀ ts, Rational.rescale? ts source target = some (Rational.rescale ts source target) ∧
      Rational.rescale ts source target = if source.den = 0 ∨ target.num = 0 then ts else 0) ∧
    (∀ (before : List Call) (d : PacketDrain), Lifetime before d → d.state ≠ .terminal →
      ∀ {ε κ : Type} [Encoder ε] [Container κ] (e : ε) (stream : OutputStream) (pts : Int64)
        (c : κ), (Container.timeBase? c stream.index).getD stream.timeBase = target →
        let ran := d.cycle e source stream pts c
        ∀ ps a e', Yields e ps a e' →
          (∀ earlier p later, ran.calls = earlier ++ .receive (.packet p) :: later →
            lastDecoded (before ++ earlier) ≠ some Int64.maxValue) →
          ∃ ws report, ran.value.result = .ok (.ok report) ∧
            Delivery before ran.calls stream.index
              (if source.den = 0 ∨ target.num = 0 then pts else 0).toInt ps a c ws
              ran.value.container) ∧
    ∀ (ws : List Framed) (d : PacketDrain), Between source target ws d →
      (source.den = 0 ∨ target.num = 0 →
        ws.Pairwise (fun v w => v.isTaken = true → v.pts < w.pts) →
          ∀ w ∈ ws, w.packet.pts = w.pts ∧ w.packet.dts = w.pts) ∧
      (¬ (source.den = 0 ∨ target.num = 0) →
        ∀ earlier w later, ws = earlier ++ w :: later →
          w.packet.pts = w.packet.dts ∧
            w.packet.dts.toInt = (earlier.filter Framed.isTaken).length) := by
  have hrescale := Rational.rescale_of_degenerate degenerate
  refine ⟨fun ts => ⟨Rational.rescale?_eq_some ts source target, hrescale ts⟩, ?_, ?_⟩
  · intro before d lifetime live ε κ _ _ e stream pts c writes ran ps a e' yields fits
    have hcycled := cycle_cycled d e source stream pts c
    have hdelivery := hcycled.delivery live lifetime.lastDts_eq yields fits
    -- What each packet of a cycle wants is known: the time as it is, or zero.
    have hstamp : cycleStamp c stream source pts = Rational.rescale pts source target :=
      congrArg _ writes
    rw [hstamp, hrescale] at hdelivery
    exact hdelivery
  · intro ws d between
    constructor
    · intro divisor increasing w mem
      exact between.own_times (fun ts => (hrescale ts).trans (if_pos divisor)) increasing mem
    · intro dividend earlier w later split
      exact between.numbered (fun ts => (hrescale ts).trans (if_neg dividend)) split

/-- A container of one stream that writes in this base. -/
def writingIn (target : Rational) : ScriptedContainer :=
  { memory := { streams := #[sampleSession.bound.config.streamSpec none], lastDts := #[none],
                muxerTimeBase := some target, headerWritten := true } }

/-- An encoder that gives one packet. -/
def onePacket : ScriptedEncoder :=
  { name := "h264_nvenc", cues := some [.packet 4 true, .again] }

/-- The cycle of a drain for a frame of 16 milliseconds. -/
def cycleIn (target : Rational) : Journaled (Drained ScriptedEncoder ScriptedContainer) :=
  ({} : PacketDrain).cycle onePacket .microsecond ⟨0, .microsecond, ⟨60, 1⟩⟩ 16000
    (writingIn target)

/-- The next cycle of the drain, for a frame of 33 milliseconds. -/
def nextCycleIn (target : Rational) : Journaled (Drained ScriptedEncoder ScriptedContainer) :=
  (cycleIn target).value.drain.cycle onePacket .microsecond ⟨0, .microsecond, ⟨60, 1⟩⟩ 33000
    (cycleIn target).value.container

/-- What is handed on in the two cycles. -/
def framedIn (target : Rational) : List Framed :=
  (cycleIn target).calls.filterMap (Call.framed? 16000) ++
    (nextCycleIn target).calls.filterMap (Call.framed? 33000)

/-- The two cycles are those of a drain whose container writes in this base, if it still does so
after the first one. -/
theorem between_framedIn {target : Rational}
    (writes : (Container.timeBase? (cycleIn target).value.container 0).getD .microsecond = target) :
    Between .microsecond target (framedIn target) (nextCycleIn target).value.drain := by
  have hfirst : Between .microsecond target ([] ++ (cycleIn target).calls.filterMap
      (Call.framed? 16000)) (cycleIn target).value.drain :=
    .cycled .new _ _ _ _ rfl
  exact hfirst.cycled onePacket ⟨0, .microsecond, ⟨60, 1⟩⟩ 33000 _ writes

/-- In ticks of `1/0` of a second the timestamp 42 is lost, and the packets of two frames are
numbered. In ticks of `0/90000` of a second the timestamp is left as it is, the packets have the
times of their frames, and the first of them is delivered. -/
theorem stamps_in_degenerate_bases_sample :
    let lost : Rational := ⟨1, 0⟩
    let kept : Rational := ⟨0, 90000⟩
    ((Rational.microsecond.IsDegenerate ∨ lost.IsDegenerate) ∧
      Rational.rescale? 42 .microsecond lost = some 0 ∧
      (framedIn lost).map (fun w => (w.pts, w.packet.dts)) = [(16000, 0), (33000, 1)] ∧
      ∃ v w, framedIn lost = [v, w] ∧ w.packet.pts = w.packet.dts ∧
        w.packet.dts.toInt = ([v].filter Framed.isTaken).length) ∧
    (Rational.microsecond.IsDegenerate ∨ kept.IsDegenerate) ∧
      Rational.rescale? 42 .microsecond kept = some 42 ∧
      (framedIn kept).map Framed.pts = [16000, 33000] ∧
      (∀ w ∈ framedIn kept, w.packet.pts = w.pts ∧ w.packet.dts = w.pts) ∧
      ∃ ws report, (cycleIn kept).value.result = .ok (.ok report) ∧
        Delivery [] (cycleIn kept).calls 0 16000 [⟨ScriptedEncoder.payload 1 4, -1, -1, true, 99⟩]
          .again (writingIn kept) ws (cycleIn kept).value.container := by
  intro lost kept
  have hlost : Rational.microsecond.IsDegenerate ∨ lost.IsDegenerate := .inr (.inr rfl)
  have hkept : Rational.microsecond.IsDegenerate ∨ kept.IsDegenerate := .inr (.inl rfl)
  obtain ⟨hlostTimes, -, hlostLife⟩ := stamps_in_degenerate_bases hlost
  obtain ⟨hkeptTimes, hdelivers, hkeptLife⟩ := stamps_in_degenerate_bases hkept
  have hlostTime : Rational.rescale 42 .microsecond lost = 0 := by decide
  have hkeptTime : Rational.rescale 42 .microsecond kept = 42 := by decide
  have hlostStamps : (framedIn lost).map (fun w => (w.pts, w.packet.dts)) =
      [(16000, 0), (33000, 1)] := by
    cbv
  have hframes : (framedIn kept).map Framed.pts = [16000, 33000] := by cbv
  refine ⟨⟨hlost, (hlostTimes 42).1.trans (congrArg some hlostTime), hlostStamps, ?_⟩, hkept,
    (hkeptTimes 42).1.trans (congrArg some hkeptTime), hframes, ?_, ?_⟩
  · obtain ⟨v, w, hsplit⟩ : ∃ v w, framedIn lost = [v, w] := by
      rw [← List.length_eq_two, ← List.length_map (fun w : Framed => (w.pts, w.packet.dts)),
        hlostStamps]
      rfl
    obtain ⟨-, hnumbered⟩ := hlostLife _ _ (between_framedIn (by cbv))
    exact ⟨v, w, hsplit, hnumbered (by decide) [v] w [] hsplit⟩
  · obtain ⟨hown, -⟩ := hkeptLife _ _ (between_framedIn (by cbv))
    have hincreasing : ((framedIn kept).map Framed.pts).Pairwise (· < ·) := by
      rw [hframes]
      decide
    have hlater : (framedIn kept).Pairwise fun v w => v.isTaken = true → v.pts < w.pts := by
      refine (List.pairwise_map.mp hincreasing).imp ?_
      intro v w h _
      exact h
    exact hown (by decide) hlater
  · have hyields : Yields onePacket [⟨ScriptedEncoder.payload 1 4, -1, -1, true, 99⟩] .again
        { onePacket with cues := some [], produced := 1 } :=
      .packet rfl (.ended rfl rfl)
    have htaken : ((cycleIn kept).calls.filterMap Call.taken?).map Packet.dts = [16000] := by cbv
    refine hdelivers [] {} .new (by decide) onePacket ⟨0, .microsecond, ⟨60, 1⟩⟩ 16000
      (writingIn kept) rfl _ _ _ hyields ?_
    -- A last decoding time is that of the one packet.
    intro earlier p later hcalls hlast
    have hmem := mem_of_lastDecoded hlast
    rw [List.nil_append] at hmem
    have hcycle : (cycleIn kept).calls = earlier ++ .receive (.packet p) :: later := hcalls
    rw [hcycle, List.filterMap_append, List.map_append] at htaken
    have hmem' : Int64.maxValue ∈ [(16000 : Int64)] := by
      rw [← htaken]
      exact List.mem_append_left _ hmem
    revert hmem'
    decide

end PacketDrain

end Framecast

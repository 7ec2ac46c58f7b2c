import Framecast.Proofs.Drain.Timely
import Framecast.Proofs.Session.Sample
import Framecast.Proofs.Session.Timestamps

/-!
# Packets on time in a session

The stamps of the frames increase, and so do these times in the base that the container writes in,
if its ticks are no longer than a microsecond. A drain that receives one packet at a time is thus
never ahead of the next frame: its last stamp is the time of an earlier one (`Punctual`). So a
packet is given the time of its frame, and no other (`Punctual.submitted`). A flush may give many
packets at once. They come after all that the container took before (`FinishedBy.ahead`).
-/

namespace Framecast

open Journaled Rational

variable {ε κ : Type} [Encoder ε] [Container κ]

/-- The stream of a session that has just started counts time as the encoder does. -/
theorem SessionBuilder.stream_of_start {b : SessionBuilder ε κ} {width height : UInt32}
    {format : SurfaceFormat} {now : Instant} {s : Session ε κ}
    (h : (b.start width height format now).value = .session s) :
    s.stream.timeBase = s.bound.config.timeBase := by
  have hs := b.start_startedBy width height format now
  rw [h] at hs
  generalize (b.start width height format now).calls = calls at hs
  cases hs with
  | started _ published _ =>
    cases published with
    | published _ _ => rfl

namespace Session

/-- The frames of a run, each with the session that it is submitted to. -/
def submissions (s : Session ε κ) : List CapturedFrame → List (Session ε κ × CapturedFrame)
  | [] => []
  | f :: fs => (s, f) :: (s.submit f).value.2.submissions fs

/-- The time base that packets are stamped in. -/
def outputTimeBase (s : Session ε κ) : Rational :=
  (Container.timeBase? s.container s.stream.index).getD s.stream.timeBase

/-- A session that counts microseconds and writes stream number `index`. The last packet that was
taken has the stamp of an accepted frame, in base `base`. -/
structure Punctual (index : Nat) (base : Rational) (s : Session ε κ) : Prop where
  /-- The encoder counts microseconds. -/
  microseconds : s.bound.config.timeBase = .microsecond
  /-- So does the stream. -/
  stream : s.stream.timeBase = .microsecond
  /-- The stream has its index. -/
  index_eq : s.stream.index = index
  /-- No frame was captured before the start. -/
  nonneg : ∀ last, s.lastPts = some last → 0 ≤ last.toInt
  /-- The last stamp is that of a frame, if not of the last one then of an earlier one. -/
  past : ∀ t, s.drain.lastDts = some t → ∃ pts last : Int64, s.lastPts = some last ∧
    0 ≤ pts.toInt ∧ pts ≤ last ∧ t = rescale pts .microsecond base

/-- In these calls a frame is accepted at `pts`, and packets have its time in base `base`. -/
structure OnTime (index : Nat) (base : Rational) (f : CapturedFrame) (pts : Int64)
    (calls : List Call) : Prop where
  /-- The frame is accepted. -/
  sent : calls.filterMap Call.sent? = [surface f pts]
  /-- What is handed on has the time of the frame. -/
  stamped : ∀ p ∈ calls.filterMap Call.handed?,
    p.pts = rescale pts .microsecond base ∧ p.dts = rescale pts .microsecond base
  /-- If that time fits, everything that the encoder gives is handed on. -/
  handed : Fits (exactTicks pts .microsecond base) →
    calls.filterMap Call.handed? = (calls.filterMap Call.received?).map
      fun p => p.stamped index (rescale pts .microsecond base)

variable {s s' : Session ε κ} {f : CapturedFrame} {calls more : List Call} {index : Nat}
  {base : Rational}

omit [Encoder ε] [Container κ] in
/-- A session that has just started is punctual. -/
theorem Fresh.punctual (h : s.Fresh) (microseconds : s.bound.config.timeBase = .microsecond)
    (stream : s.stream.timeBase = s.bound.config.timeBase) : s.Punctual s.stream.index base := by
  refine ⟨microseconds, stream.trans microseconds, rfl, ?_, ?_⟩
  · intro last hlast
    rw [h.lastPts] at hlast
    cases hlast
  · intro t hlast
    rw [h.drain] at hlast
    cases hlast

omit [Encoder ε] [Container κ] in
/-- The last stamp of a punctual session is that of an earlier time than the next frame's. -/
theorem Punctual.earlier (h : s.Punctual index base) {pts : Int64}
    (stamp : nextStamp s.lastPts (s.ticks f) = .ok pts) :
    0 ≤ pts.toInt ∧ ∀ t, s.drain.lastDts = some t → ∃ earlier : Int64, 0 ≤ earlier.toInt ∧
      earlier < pts ∧ t = rescale earlier .microsecond base := by
  constructor
  · cases hlast : s.lastPts with
    | none =>
      rw [hlast] at stamp
      obtain rfl := Except.ok.inj stamp
      unfold ticks
      rw [h.microseconds, toInt_ticks_microsecond]
      omega
    | some last =>
      rw [hlast] at stamp
      have hlt := Int64.lt_iff_toInt_lt.mp (lt_of_nextStamp stamp)
      have hnonneg := h.nonneg last hlast
      omega
  · intro t ht
    obtain ⟨earlier, last, hlast, hnonneg, hle, hstamp⟩ := h.past t ht
    rw [hlast] at stamp
    exact ⟨earlier, hnonneg, Int64.lt_of_le_of_lt hle (lt_of_nextStamp stamp), hstamp⟩

omit [Encoder ε] [Container κ] in
/-- A session stays punctual after a frame, if the last stamp is that of the frame, or was left
alone. -/
theorem Punctual.after (h : s.Punctual index base) {pts : Int64} {e : ε} {d : Drained ε κ}
    (stamp : nextStamp s.lastPts (s.ticks f) = .ok pts)
    (last : d.drain.lastDts = some (rescale pts .microsecond base) ∨
      d.drain.lastDts = s.drain.lastDts) : ((s.sending e pts).after d).Punctual index base := by
  obtain ⟨hnonneg, hpast⟩ := h.earlier stamp
  refine ⟨h.microseconds, h.stream, h.index_eq, ?_, ?_⟩
  · intro t ht
    obtain rfl := Option.some.inj ht
    exact hnonneg
  · intro t ht
    rcases last with hnew | hold
    · obtain rfl := Option.some.inj (hnew.symm.trans ht)
      exact ⟨pts, pts, rfl, hnonneg, Int64.le_refl pts, rfl⟩
    · obtain ⟨earlier, hearlier, hlt, rfl⟩ := hpast t (hold.symm.trans ht)
      exact ⟨earlier, pts, rfl, hearlier, Int64.le_of_lt hlt, rfl⟩

/-- A punctual session stays so when a submission receives at most one packet. That packet is on
time. -/
theorem Punctual.submitted {answer : Answer} (h : s.Punctual index base)
    (positive : base.isPositive = true) (fine : base.toRat ≤ microsecond.toRat)
    (writes : s.outputTimeBase = base) (submitted : s.Submitted f calls answer s')
    (single : (calls.filterMap Call.received?).length ≤ 1) :
    s'.Punctual index base ∧
      (calls.filterMap Call.received? = [] ∧ calls.filterMap Call.handed? = [] ∨
        ∃ pts, OnTime index base f pts calls) := by
  cases submitted with
  | refused _ => exact ⟨h, .inl ⟨rfl, rfl⟩⟩
  | unsent _ _ => exact ⟨⟨h.microseconds, h.stream, h.index_eq, h.nonneg, h.past⟩, .inl ⟨rfl, rfl⟩⟩
  | @drained pts e cycle d accepts sent cycled =>
    obtain ⟨r, e', o, hpulled, hlast⟩ := cycled.pulled accepts.live
    -- What the cycle wants is the time of the frame, in the base that the container writes in.
    have hstamp : cycleStamp s.container s.stream s.bound.config.timeBase pts =
        rescale pts .microsecond base := by
      rw [← writes, h.microseconds]
      rfl
    have hloop : Pulled index (rescale pts .microsecond base) e (s.drain.outlet s.container) cycle
        r e' o := by
      rw [← hstamp, ← h.index_eq]
      exact hpulled
    -- The last stamp is that of an earlier frame, so that it does not get in the way.
    obtain ⟨hexact, hfits⟩ :=
      nextStamp_rescaled rfl positive fine (h.earlier accepts.stamp).2
    obtain ⟨hstamped, hhanded, hnew⟩ := hloop.punctual single hexact
    have hsent : (Call.sendFrame (surface f pts) (.ok ()) :: cycle).filterMap Call.sent? =
        [surface f pts] := congrArg (_ :: ·) (unsent_of_transfers cycled.transfers)
    exact ⟨h.after accepts.stamp (hlast.symm ▸ hnew),
      .inr ⟨pts, hsent, hstamped, fun fits => hhanded (hfits fits)⟩⟩

/-- Along a run a punctual session stays so. The induction is on the frames. -/
theorem Punctual.submissions (h : s.Punctual index base) (positive : base.isPositive = true)
    (fine : base.toRat ≤ microsecond.toRat) {fs : List CapturedFrame}
    (writes : ∀ x ∈ s.submissions fs, x.1.outputTimeBase = base)
    (single : ∀ x ∈ s.submissions fs,
      ((x.1.submit x.2).calls.filterMap Call.received?).length ≤ 1) :
    ∀ x ∈ s.submissions fs, x.1.Punctual index base := by
  induction fs generalizing s with
  | nil => exact fun x hx => absurd hx List.not_mem_nil
  | cons f fs ih =>
    obtain ⟨hnext, -⟩ := h.submitted positive fine (writes _ List.mem_cons_self)
      (s.submit_submitted f) (single _ List.mem_cons_self)
    refine List.forall_mem_cons.mpr ⟨h, ih hnext ?_ ?_⟩
    · exact fun x hx => writes x (List.mem_cons_of_mem _ hx)
    · exact fun x hx => single x (List.mem_cons_of_mem _ hx)

/-! ## The flush -/

/-- What a submission takes is passed by the last stamp. -/
theorem Submitted.passed {answer : Answer} {before : List Call}
    (h : s.Submitted f calls answer s') (passed : Passed before s.drain.lastDts) :
    Passed (before ++ calls) s'.drain.lastDts := by
  cases h with
  | refused _ => exact passed.append rfl
  | unsent _ _ => exact passed.append rfl
  | @drained pts e cycle d accepts sent cycled =>
    have hsent : Passed (before ++ [.sendFrame (surface f pts) (.ok ())]) s.drain.lastDts :=
      passed.append rfl
    have hcycle := (cycled.ahead hsent).2
    rw [List.append_assoc] at hcycle
    exact hcycle

/-- A flush hands packets on ahead of all that were taken. -/
theorem FlushedBy.ahead {r : Except Overflow (Option SessionError)} {before : List Call}
    (h : s.FlushedBy calls r s') (passed : Passed before s.drain.lastDts) : Ahead before calls := by
  cases h with
  | skipped _ => exact .of_unhanded rfl
  | unsent _ _ _ => exact .of_unhanded rfl
  | @drained first cycle s'' d live ends cycled =>
    cases ends with
    | already _ => exact (cycled.ahead passed).1
    | signalled _ _ =>
      have hsent : Ahead before [.sendEnd (.ok ())] := .of_unhanded rfl
      exact hsent.append (cycled.ahead (passed.append rfl)).1

/-- Finishing a session hands packets on ahead of all that were taken. -/
theorem FinishedBy.ahead {duration : Duration} {finished : Finished κ} {before : List Call}
    (h : s.FinishedBy duration calls finished) (passed : Passed before s.drain.lastDts) :
    Ahead before calls := by
  cases h with
  | overflowed flushed =>
    rw [List.append_assoc]
    exact (flushed.ahead passed).append (.of_unhanded rfl)
  | completed flushed _ => exact (flushed.ahead passed).append (.of_unhanded rfl)

/-! ## A whole run -/

/-- What is taken along a run is passed by the last stamp. -/
theorem Ran.passed {fs : List CapturedFrame} {answers : List Answer}
    (ran : s.Ran fs calls answers s') : Passed calls s'.drain.lastDts := by
  refine ran.keeps (I := fun calls _ s' => Passed calls s'.drain.lastDts) ?_ ?_
  · exact fun q hq => absurd hq List.not_mem_nil
  · exact fun passed submitted => submitted.passed passed

/-- Without a time base of the container's own, everything that the encoder gives is handed on with
the timestamp of the frame. -/
theorem OnTime.handed_microsecond {pts : Int64} (h : OnTime index .microsecond f pts calls) :
    calls.filterMap Call.handed? =
      (calls.filterMap Call.received?).map (·.stamped index pts) := by
  have hfits : Fits (exactTicks pts .microsecond .microsecond) := by
    rw [exactTicks_of_toRat_eq rfl rfl]
    exact ⟨pts, .self _⟩
  rw [h.handed hfits, rescale_of_toRat_eq rfl rfl rfl]

/-- A session whose container writes in ticks of a microsecond or shorter, and that receives at most
one packet for each frame, hands every packet on with the time of its frame, whatever is refused in
between: with the frame's own timestamp, if the container has no time base. When it is finished,
what is still to come is stamped after all that was taken. -/
theorem packets_on_time {b : SessionBuilder ε κ} {width height : UInt32} {format : SurfaceFormat}
    {start : Instant} (started : (b.start width height format start).value = .session s)
    {base : Rational} (positive : base.isPositive = true)
    (fine : base.toRat ≤ microsecond.toRat) (fs : List CapturedFrame)
    (writes : ∀ x ∈ s.submissions fs, x.1.outputTimeBase = base)
    (single : ∀ x ∈ s.submissions fs,
      ((x.1.submit x.2).calls.filterMap Call.received?).length ≤ 1) (now : Instant) :
    (∀ x ∈ s.submissions fs,
      let calls := (x.1.submit x.2).calls
      calls.filterMap Call.received? = [] ∧ calls.filterMap Call.handed? = [] ∨
        ∃ pts, OnTime s.stream.index base x.2 pts calls ∧
          (Container.timeBase? x.1.container s.stream.index = none →
            calls.filterMap Call.handed? =
              (calls.filterMap Call.received?).map (·.stamped s.stream.index pts))) ∧
      Ahead (s.submitAll fs).calls ((s.submitAll fs).value.2.finish now).calls := by
  have punctual : s.Punctual s.stream.index base :=
    (SessionBuilder.fresh_of_start started).punctual
      (SessionBuilder.timeBase_of_start started) (SessionBuilder.stream_of_start started)
  have run := punctual.submissions positive fine writes single
  constructor
  · intro x hx calls
    obtain ⟨-, hnone | ⟨pts, hontime⟩⟩ := (run x hx).submitted positive fine (writes x hx)
      (x.1.submit_submitted x.2) (single x hx)
    · exact .inl hnone
    · refine .inr ⟨pts, hontime, fun keeps => ?_⟩
      -- The stream counts microseconds, so that the base can only be that.
      have hbase : base = .microsecond := by
        rw [← writes x hx, outputTimeBase, (run x hx).index_eq, keeps, (run x hx).stream]
        rfl
      rw [hbase] at hontime
      exact hontime.handed_microsecond
  · exact FinishedBy.ahead (Session.finish_finishedBy _ now) (s.submitAll_ran fs).passed

/-- Of three frames the encoder takes two, since the second has no surface. Both were captured five
milliseconds after the start, so that the second is stamped a microsecond later. The packets have
these times in nanoseconds. -/
theorem packets_on_time_sample :
    let first := sampleFrame (.ofNanos 5000000)
    let fs := [first, { sampleFrame (.ofNanos 6000000) with address := 0 }, first]
    let ran := sampleSession.submitAll fs
    OnTime 0 .nanosecond first 5000 (sampleSession.submit first).calls ∧
      (ran.calls.filterMap Call.handed?).map Packet.pts = [5000000, 5001000] ∧
      Ahead ran.calls (ran.value.2.finish ⟨1⟩).calls := by
  intro first fs ran
  have hbases : (sampleSession.submissions fs).map (·.1.outputTimeBase) =
      [.nanosecond, .nanosecond, .nanosecond] := by
    cbv
  have hcounts : (sampleSession.submissions fs).map
      (fun x => ((x.1.submit x.2).calls.filterMap Call.received?).length) = [1, 0, 1] := by
    cbv
  have hfine : nanosecond.toRat ≤ microsecond.toRat := by
    have hnano : nanosecond.toRat = 1 / 1000000000 := rfl
    have hmicro : microsecond.toRat = 1 / 1000000 := rfl
    rw [hnano, hmicro]
    norm_num
  have hwrites : ∀ base ∈ (sampleSession.submissions fs).map (·.1.outputTimeBase),
      base = .nanosecond := by
    rw [hbases]
    decide
  have hsingle : ∀ n ∈ (sampleSession.submissions fs).map
      (fun x => ((x.1.submit x.2).calls.filterMap Call.received?).length), n ≤ 1 := by
    rw [hcounts]
    decide
  have hsent : (sampleSession.submit first).calls.filterMap Call.sent? = [surface first 5000] := by
    cbv
  have hreceived : ((sampleSession.submit first).calls.filterMap Call.received?).length = 1 := by
    cbv
  obtain ⟨hsubmitted, hfinished⟩ := packets_on_time sampleBuilder_starts rfl hfine fs
    (List.forall_mem_map.mp hwrites) (List.forall_mem_map.mp hsingle) ⟨1⟩
  refine ⟨?_, by cbv, hfinished⟩
  rcases hsubmitted _ List.mem_cons_self with ⟨hnone, -⟩ | ⟨pts, hontime, -⟩
  · rw [List.length_eq_zero_iff.mpr hnone] at hreceived
    cases hreceived
  · obtain rfl : pts = 5000 :=
      congrArg SurfaceFrame.pts (List.singleton_inj.mp (hontime.sent.symm.trans hsent))
    exact hontime

end Session

end Framecast

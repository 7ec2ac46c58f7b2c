import Framecast.Proofs.Container.Memory
import Framecast.Proofs.Drain.Stamp
import Framecast.Proofs.Session.Run
import Framecast.Proofs.Session.Sample

/-!
# The order of the packets of a session

A session that writes to a container in memory never has a packet refused: the last stamp that its
drain remembers is the last decoding time that the container keeps for the stream (`Follows`), and
the next stamp comes after it. Every packet that the container takes keeps the two together, however
the stamps are rescaled, and so does every cycle, every submission and the flush at the end.
-/

namespace Framecast

open MemoryContainer

/-- The container holds what was handed to it by these calls, for one stream, in order. -/
structure MemoryContainer.InOrder (index : Nat) (calls : List Call) (c : MemoryContainer) :
    Prop where
  /-- Every packet is of the stream, and is presented when it is decoded. -/
  ours : ∀ p ∈ c.packets, p.stream = index ∧ p.pts = p.dts
  /-- The decoding times increase. -/
  increasing : c.packets.toList.Pairwise fun p q => p.dts < q.dts
  /-- The packets are those that the calls wrote. -/
  complete : c.packets.toList = calls.filterMap Call.taken?
  /-- None was refused. -/
  unrefused : calls.filterMap Call.refused? = []

/-- The container is open, holds what was handed to it by these calls, and its last decoding time
for the stream is the last stamp. -/
structure Follows (index : Nat) (calls : List Call) (c : MemoryContainer) (last : Option Int64) :
    Prop where
  /-- The header is written. -/
  begun : c.headerWritten = true
  /-- The trailer is not. -/
  unended : c.trailerWritten = false
  /-- The parts of the container agree. -/
  formed : c.WellFormed
  /-- The stream was last decoded at the last stamp. -/
  known : c.lastDts[index]? = some last
  /-- Every packet is of the stream, and is presented when it is decoded. -/
  ours : ∀ p ∈ c.packets, p.stream = index ∧ p.pts = p.dts
  /-- The packets are those that the calls wrote. -/
  complete : c.packets.toList = calls.filterMap Call.taken?
  /-- None was refused. -/
  unrefused : calls.filterMap Call.refused? = []

namespace Follows

variable {index : Nat} {calls : List Call} {c : MemoryContainer} {last : Option Int64}

/-- What follows its calls is in order. -/
theorem inOrder (h : Follows index calls c last) : c.InOrder index calls := by
  -- All packets are of the stream, so that those of the stream are all packets.
  have hall : c.packetsOf index = c.packets.toList := by
    unfold packetsOf
    rw [List.filter_eq_self]
    intro p hp
    simp [(h.ours p (Array.mem_toList_iff.mp hp)).1]
  have hinc := h.formed.increasing index
  rw [hall] at hinc
  exact ⟨h.ours, hinc, h.complete, h.unrefused⟩

/-- Calls that write no packet change nothing. -/
theorem append (h : Follows index calls c last) (more : List Call)
    (taken : more.filterMap Call.taken? = []) (refused : more.filterMap Call.refused? = []) :
    Follows index (calls ++ more) c last := by
  refine ⟨h.begun, h.unended, h.formed, h.known, h.ours, ?_, ?_⟩
  · rw [List.filterMap_append, taken, List.append_nil]
    exact h.complete
  · rw [List.filterMap_append, refused, List.append_nil]
    exact h.unrefused

/-- A packet with the next stamp is stored. -/
theorem stores (h : Follows index calls c last) (p : Packet) {stamp ts : Int64}
    (next : nextStamp last stamp = .ok ts) :
    c.writePacket (p.stamped index ts) = (.ok (), c.storing (p.stamped index ts)) := by
  refine writePacket_stored h.begun h.unended h.known ?_
  rintro t rfl
  exact lt_of_nextStamp next

/-- A stored packet moves the last decoding time and the last stamp alike. -/
theorem storing (h : Follows index calls c last) (p : Packet) {stamp ts : Int64}
    (next : nextStamp last stamp = .ok ts) :
    Follows index (calls ++ [.writePacket (p.stamped index ts) (.ok ())])
      (c.storing (p.stamped index ts)) (some ts) := by
  have hafter : ∀ t, last = some t → t < ts := by
    rintro t rfl
    exact lt_of_nextStamp next
  have hlt : index < c.lastDts.size := (Array.getElem?_eq_some_iff.mp h.known).1
  constructor
  · exact h.begun
  · exact h.unended
  · exact h.formed.storing h.begun h.known hafter
  · exact Array.getElem?_setIfInBounds_self_of_lt hlt
  · intro q hq
    rcases Array.mem_push.mp hq with hq | rfl
    · exact h.ours q hq
    · exact ⟨rfl, rfl⟩
  · simp [MemoryContainer.storing, h.complete, Call.taken?]
  · simp [h.unrefused, Call.refused?]

end Follows

variable {ε : Type} [Encoder ε]

/-- The loop that pulls packets keeps the two together, and has none refused. The induction is on
the loop; each packet it takes is the next one stored. -/
theorem Pulled.follows {index : Nat} {stamp : Int64} {e e' : ε} {o o' : Outlet MemoryContainer}
    {calls : List Call} {r : Except Overflow DrainOutcome}
    (pulled : Pulled index stamp e o calls r e' o') {before : List Call}
    (h : Follows index before o.container o.lastDts) :
    Follows index (before ++ calls) o'.container o'.lastDts ∧
      o'.writeFailures = o.writeFailures := by
  induction pulled generalizing before with
  | @taken e e' e'' o o'' p ts c calls r received next written rest ih =>
    have hw : (Except.ok (), o.container.storing (p.stamped index ts)) = (Except.ok (), c) :=
      (h.stores p next).symm.trans written
    obtain rfl := (Prod.mk.inj hw).2
    have hf := (h.append [.receive (.packet p)] rfl rfl).storing p next
    simpa [Outlet.taking] using ih hf
  | @refused e e' e'' o o'' p ts f c calls r received next written rest ih =>
    -- The stamp comes after the last decoding time, so the container had no reason to refuse.
    have hw : (Except.ok (), o.container.storing (p.stamped index ts)) = (Except.error f, c) :=
      (h.stores p next).symm.trans written
    cases (Prod.mk.inj hw).1
  | overflowed received next => exact ⟨h.append _ rfl rfl, rfl⟩
  | stopped received ends => exact ⟨h.append _ rfl rfl, rfl⟩

/-- A drain cycle keeps the two together, and reports no refused packet. -/
theorem Cycled.follows {d : PacketDrain} {e : ε} {timeBase : Rational} {stream : OutputStream}
    {pts : Int64} {c : MemoryContainer} {calls : List Call} {drained : Drained ε MemoryContainer}
    (cycled : Cycled d e timeBase stream pts c calls drained) {before : List Call}
    (h : Follows stream.index before c d.lastDts) :
    Follows stream.index (before ++ calls) drained.container drained.drain.lastDts ∧
      drained.drain.writeFailures = d.writeFailures ∧
      ∀ report, drained.result = .ok (.ok report) → report.writeFailures = 0 := by
  cases cycled with
  | terminated _ => exact ⟨h.append _ rfl rfl, rfl, by simp⟩
  | overflowed _ pulled =>
    obtain ⟨hf, -⟩ := pulled.follows h
    exact ⟨hf, rfl, by simp⟩
  | @settled calls outcome e' o _ pulled =>
    obtain ⟨hf, hw⟩ := pulled.follows h
    have hzero : o.writeFailures = 0 := hw
    refine ⟨hf, ?_, ?_⟩
    · simp [PacketDrain.settle, hzero]
    · rintro report hr
      obtain rfl := Except.ok.inj (Except.ok.inj hr)
      exact hzero

namespace Session

/-- A session that writes a stream, whose container follows these calls, and whose drain has counted
no refused packet. -/
structure Orderly (index : Nat) (calls : List Call) (s : Session ε MemoryContainer) : Prop where
  /-- The session writes the stream. -/
  stream : s.stream.index = index
  /-- Its container follows the calls. -/
  follows : Follows index calls s.container s.drain.lastDts
  /-- The drain has counted no refused packet. -/
  uncounted : s.drain.writeFailures = 0

variable {index : Nat} {calls more : List Call} {s s' : Session ε MemoryContainer}

omit [Encoder ε] in
/-- Calls that write no packet change nothing. -/
theorem Orderly.append (h : s.Orderly index calls) (more : List Call)
    (taken : more.filterMap Call.taken? = []) (refused : more.filterMap Call.refused? = []) :
    s.Orderly index (calls ++ more) :=
  ⟨h.stream, h.follows.append more taken refused, h.uncounted⟩

/-- A session is as orderly after a drain cycle, whose report counts no refused packet. -/
theorem Orderly.after (h : s.Orderly index calls) {pts : Int64} {d : Drained ε MemoryContainer}
    (cycled : s.Cycles pts more d) :
    (s.after d).Orderly index (calls ++ more) ∧
      ∀ report, d.answer = .ok (.ok report) → report.writeFailures = 0 := by
  obtain ⟨rfl, hf, hw⟩ := h
  obtain ⟨hf', hw', hr⟩ := cycled.follows hf
  refine ⟨⟨rfl, hf', hw'.trans hw⟩, ?_⟩
  intro report ha
  exact hr report (Drained.answer_ok.mp ha)

/-- A session is as orderly after a submission, whose report counts no refused packet. -/
theorem Orderly.submitted (h : s.Orderly index calls) {f : CapturedFrame} {answer : Answer}
    (submitted : s.Submitted f more answer s') :
    s'.Orderly index (calls ++ more) ∧
      ∀ report, answer = .ok (.ok report) → report.writeFailures = 0 := by
  cases submitted with
  | refused refusal =>
    refine ⟨h.append [] rfl rfl, ?_⟩
    rintro report rfl
    cases refusal
  | @unsent pts fault e accepts sent =>
    have he : (s.withEncoder e).Orderly index calls := ⟨h.stream, h.follows, h.uncounted⟩
    exact ⟨he.append _ rfl rfl, by simp⟩
  | @drained pts e cycle d accepts sent cycled =>
    have he : (s.sending e pts).Orderly index calls := ⟨h.stream, h.follows, h.uncounted⟩
    have hd := (he.append [.sendFrame (surface f pts) (.ok ())] rfl rfl).after cycled
    simpa using hd

/-- A session is as orderly after it is flushed. -/
theorem Orderly.flushed (h : s.Orderly index calls) {r : Except Overflow (Option SessionError)}
    (flushed : s.FlushedBy more r s') : s'.Orderly index (calls ++ more) := by
  cases flushed with
  | skipped _ => exact h.append [] rfl rfl
  | @unsent fault e _ _ _ =>
    have he : (s.withEncoder e).Orderly index calls := ⟨h.stream, h.follows, h.uncounted⟩
    exact he.append _ rfl rfl
  | @drained before cycle s'' d live ends cycled =>
    have hs : s''.Orderly index (calls ++ before) := by
      cases ends with
      | already _ => exact h.append [] rfl rfl
      | @signalled e _ _ =>
        have he : (s.ending e).Orderly index calls := ⟨h.stream, h.follows, h.uncounted⟩
        exact he.append _ rfl rfl
    rw [← List.append_assoc]
    exact (hs.after cycled).1

/-- The container of a session that is finished is in order, and the summary counts no refused
packet. -/
theorem Orderly.finished (h : s.Orderly index calls) {duration : Duration}
    {finished : Finished MemoryContainer} (ended : s.FinishedBy duration more finished) :
    finished.container.InOrder index (calls ++ more) ∧
      ∀ summary, finished.result = .ok (.ok summary) → summary.writeFailures = 0 := by
  cases ended with
  | @overflowed more x s' flushed =>
    have hs := (h.flushed flushed).append (s'.bound.releaseCalls ++ [.release .container]) rfl rfl
    refine ⟨?_, by simp⟩
    simpa using hs.follows.inOrder
  | @completed more failure s' answer c flushed trailer =>
    have hs := (h.flushed flushed).append
      (.writeTrailer answer :: .release .container :: s'.bound.releaseCalls) rfl rfl
    have hin := hs.follows.inOrder
    -- The trailer closes the container, and leaves the packets as they are.
    have hc : c.packets = s'.container.packets := by
      rw [← MemoryContainer.packets_writeTrailer s'.container]
      exact congrArg (fun x => x.2.packets) trailer.symm
    refine ⟨⟨?_, ?_, ?_, ?_⟩, ?_⟩
    · rw [hc]
      exact hin.ours
    · rw [hc]
      exact hin.increasing
    · rw [hc]
      simpa using hin.complete
    · simpa using hin.unrefused
    · intro summary hsum
      obtain ⟨-, rfl⟩ := outcome_ok.mp (Except.ok.inj hsum)
      exact (h.flushed flushed).uncounted

/-- A session that has just started is orderly. -/
theorem Orderly.start {b : SessionBuilder ε MemoryContainer} (reachable : b.container.Reachable)
    {width height : UInt32} {format : SurfaceFormat} {now : Instant}
    (h : (b.start width height format now).value = .session s) :
    s.Orderly s.stream.index [] := by
  obtain ⟨hindex, spec, c, hadd, hheader⟩ := SessionBuilder.container_of_start h
  have hfresh := SessionBuilder.fresh_of_start h
  have hformed := reachable.wellFormed
  -- The session's container was reached by two more calls.
  have hsession : s.container.WellFormed := by
    have hreach := ((reachable.added spec).begun).wellFormed
    rw [show b.container.addStream spec = (some s.stream.index, c) from hadd] at hreach
    rw [show c.writeHeader = (.ok (), s.container) from hheader] at hreach
    exact hreach
  rcases b.container.addStream_cases spec with hn | ⟨hunbegun, ha⟩
  · cases hn.symm.trans hadd
  obtain ⟨-, rfl⟩ := Prod.mk.inj (ha.symm.trans hadd)
  rcases MemoryContainer.writeHeader_cases _ with ⟨f, hf⟩ | ⟨-, ho⟩
  · cases hf.symm.trans hheader
  have hc := (Prod.mk.inj (ho.symm.trans hheader)).2
  have hempty := hformed.unbegun hunbegun
  have hunended : b.container.trailerWritten = false := by
    rw [← Bool.not_eq_true]
    intro ht
    rw [hformed.begun ht] at hunbegun
    cases hunbegun
  -- The index that came next is the place of the new stream, with no packet yet.
  have hknown : (b.container.lastDts.push none)[s.stream.index]? = some none := by
    rw [show s.stream.index = b.container.lastDts.size from hindex.trans hformed.size.symm]
    exact Array.getElem?_push_size
  refine ⟨rfl, ⟨?_, ?_, hsession, ?_, ?_, ?_, rfl⟩, by rw [hfresh.drain]⟩
  · rw [← hc]
  · rw [← hc]
    exact hunended
  · rw [← hc, hfresh.drain]
    exact hknown
  · rw [← hc]
    simp [hempty]
  · rw [← hc]
    simp [hempty]

/-- The packets that a session writes to a container in memory, which nothing else writes to, are
taken in order: every packet handed to the container is of the session's stream, which has the index
that came next, is presented when it is decoded, and is decoded after the one before. The container
refuses none of them, so that no report and no summary counts a failed write. So it is after any
frames, and after finishing at any moment from there. -/
theorem packets_in_order {b : SessionBuilder ε MemoryContainer} (reachable : b.container.Reachable)
    {width height : UInt32} {format : SurfaceFormat} {start : Instant}
    (started : (b.start width height format start).value = .session s) (fs : List CapturedFrame)
    (now : Instant) :
    let ran := s.submitAll fs
    let ended := ran.value.2.finish now
    s.stream.index = b.container.streams.size ∧
      ran.value.2.container.InOrder s.stream.index ran.calls ∧
      (∀ report, .ok (.ok report) ∈ ran.value.1 → report.writeFailures = 0) ∧
      ended.value.container.InOrder s.stream.index (ran.calls ++ ended.calls) ∧
      (∀ summary, ended.value.result = .ok (.ok summary) → summary.writeFailures = 0) := by
  intro ran ended
  have hrun : ran.value.2.Orderly s.stream.index ran.calls ∧
      ∀ report, .ok (.ok report) ∈ ran.value.1 → report.writeFailures = 0 := by
    refine Ran.keeps (I := fun calls answers s' => s'.Orderly s.stream.index calls ∧
      ∀ report, .ok (.ok report) ∈ answers → report.writeFailures = 0) ?_ ?_ (s.submitAll_ran fs)
    · exact ⟨.start reachable started, by simp⟩
    · rintro f calls more answers answer s' s'' ⟨h, hr⟩ hsub
      obtain ⟨h', hr'⟩ := h.submitted hsub
      refine ⟨h', ?_⟩
      intro report hmem
      rcases List.mem_append.mp hmem with hmem | hmem
      · exact hr report hmem
      · exact hr' report (List.mem_singleton.mp hmem).symm
  obtain ⟨horderly, hreports⟩ := hrun
  obtain ⟨hin, hsummary⟩ := horderly.finished (ran.value.2.finish_finishedBy now)
  exact ⟨(SessionBuilder.container_of_start started).1, horderly.follows.inOrder, hreports, hin,
    hsummary⟩

/-- A session writes two frames taken at the same moment in order. -/
theorem packets_in_order_sample :
    (sampleBuilder.start 64 48 .bgra ⟨0⟩).value = .session sampleSession ∧
      let ran := sampleSession.submitAll [sampleFrame .zero, sampleFrame .zero]
      let ended := ran.value.2.finish ⟨1⟩
      sampleSession.stream.index = 0 ∧
        ran.value.2.container.InOrder sampleSession.stream.index ran.calls ∧
        (∀ report, .ok (.ok report) ∈ ran.value.1 → report.writeFailures = 0) ∧
        ended.value.container.InOrder sampleSession.stream.index (ran.calls ++ ended.calls) ∧
        (∀ summary, ended.value.result = .ok (.ok summary) → summary.writeFailures = 0) :=
  ⟨sampleBuilder_starts,
    packets_in_order (.adjusted .new false none (some .nanosecond)) sampleBuilder_starts
      [sampleFrame .zero, sampleFrame .zero] ⟨1⟩⟩

end Session

end Framecast

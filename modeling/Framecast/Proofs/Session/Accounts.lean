import Mathlib
import Framecast.Proofs.Drain.Stamp
import Framecast.Proofs.Session.Run
import Framecast.Proofs.Session.Sample

/-!
# The accounts of a session

What a session counts is what happened. As long as no timestamp overflows, every packet received
from the encoder is handed to the container, with its data and its mark unaltered and in order, and
the totals of the drain and of the encoder are the numbers of packets taken and refused and of
frames sent (`Accounted`). A cycle tallies its own calls; the totals add up over the submissions and
the flush.

An overflow ends a cycle before it is counted, with a packet in hand that is lost.
-/

namespace Framecast

/-- What a packet carries, whatever its stamps. -/
def Packet.content (p : Packet) : ByteArray × Bool := (p.data, p.isKeyframe)

/-- Stamping a packet leaves alone what it carries. -/
@[simp] theorem Packet.content_stamped (p : Packet) (stream : Nat) (ts : Int64) :
    (p.stamped stream ts).content = p.content := rfl

/-- What was handed to the container is what was received from the encoder, in order. -/
def Intact (calls : List Call) : Prop :=
  (calls.filterMap Call.handed?).map Packet.content =
    (calls.filterMap Call.received?).map Packet.content

/-- Calls that are intact one after the other are intact. -/
theorem Intact.append {calls more : List Call} (h : Intact calls) (h' : Intact more) :
    Intact (calls ++ more) := by
  unfold Intact at h h' ⊢
  rw [List.filterMap_append, List.filterMap_append, List.map_append, List.map_append, h, h']

variable {ε κ : Type} [Encoder ε] [Container κ]

/-! ## A drain cycle -/

section Pulled

variable {stream : Nat} {stamp : Int64} {e e' : ε} {o o' : Outlet κ} {calls : List Call}
  {r : Except Overflow DrainOutcome}

/-- The loop that pulls packets ends in no other overflow than that of a tick. -/
theorem Pulled.overflow_eq (h : Pulled stream stamp e o calls r e' o') :
    ∀ x, r = .error x → x = .addition := by
  induction h with
  | taken received next written rest ih => exact ih
  | refused received next written rest ih => exact ih
  | overflowed received next =>
    rintro x ⟨⟩
    exact nextStamp_error next
  | stopped received ends => simp

/-- The loop that pulls packets hands every one of them on, unless one cannot be stamped. -/
theorem Pulled.intact (h : Pulled stream stamp e o calls r e' o') :
    ∀ outcome, r = .ok outcome → Intact calls := by
  induction h with
  | taken received next written rest ih =>
    intro outcome hr
    simpa [Intact, List.filterMap_cons, Call.handed?, Call.received?] using ih outcome hr
  | refused received next written rest ih =>
    intro outcome hr
    simpa [Intact, List.filterMap_cons, Call.handed?, Call.received?] using ih outcome hr
  | overflowed received next => simp
  | @stopped e e' o a outcome received ends =>
    intro _ _
    cases a with
    | packet p => cases ends
    | again => rfl
    | endOfStream => rfl
    | failed f => rfl

/-- The loop that pulls packets sends no frame, and counts the packets that the container takes and
those that it refuses. -/
theorem Pulled.tally (h : Pulled stream stamp e o calls r e' o') :
    calls.filterMap Call.sent? = [] ∧
      o'.written = o.written + (calls.filterMap Call.taken?).length ∧
      o'.writeFailures = o.writeFailures + (calls.filterMap Call.refused?).length := by
  induction h with
  | taken received next written rest ih =>
    obtain ⟨hs, hw, hf⟩ := ih
    refine ⟨by simpa [Call.sent?] using hs, ?_, ?_⟩
    · simp [hw, Outlet.taking, List.filterMap_cons, Call.taken?]
      omega
    · simp [hf, Outlet.taking, List.filterMap_cons, Call.refused?]
  | refused received next written rest ih =>
    obtain ⟨hs, hw, hf⟩ := ih
    refine ⟨by simpa [Call.sent?] using hs, ?_, ?_⟩
    · simp [hw, Outlet.refusing, List.filterMap_cons, Call.taken?]
    · simp [hf, Outlet.refusing, List.filterMap_cons, Call.refused?]
      omega
  | overflowed received next => simp [Call.sent?, Call.taken?, Call.refused?]
  | stopped received ends => simp [Call.sent?, Call.taken?, Call.refused?]

/-- The loop that pulls packets ends with the end of stream exactly if the encoder reports it. -/
theorem Pulled.endOfStream_iff (h : Pulled stream stamp e o calls r e' o') :
    ∀ outcome, r = .ok outcome → (outcome = .endOfStream ↔ .receive .endOfStream ∈ calls) := by
  induction h with
  | taken received next written rest ih =>
    intro outcome hr
    simpa using ih outcome hr
  | refused received next written rest ih =>
    intro outcome hr
    simpa using ih outcome hr
  | overflowed received next => simp
  | @stopped e e' o a outcome received ends =>
    rintro _ ⟨⟩
    cases a <;> simp [Received.outcome?] at ends <;> simp [← ends]

end Pulled

/-- A drain cycle ends in no other overflow than that of a tick. -/
theorem Cycled.overflow_eq {d : PacketDrain} {e : ε} {timeBase : Rational} {stream : OutputStream}
    {pts : Int64} {c : κ} {calls : List Call} {drained : Drained ε κ}
    (h : Cycled d e timeBase stream pts c calls drained) {x : Overflow}
    (overflow : drained.answer = .error x) : x = .addition := by
  cases h with
  | terminated _ => cases overflow
  | overflowed _ pulled =>
    obtain rfl := Except.error.inj overflow
    exact pulled.overflow_eq _ rfl
  | settled _ _ => cases overflow

/-! ## A session -/

namespace Session

/-- What a session has counted is what these calls did. -/
structure Accounted (calls : List Call) (s : Session ε κ) : Prop where
  /-- Every packet received was handed on. -/
  intact : Intact calls
  /-- The frames that the encoder took are counted. -/
  sent : s.bound.framesSent = (calls.filterMap Call.sent?).length
  /-- The packets that the container took are counted. -/
  taken : s.drain.packetsWritten = (calls.filterMap Call.taken?).length
  /-- The packets that it refused are counted. -/
  refused : s.drain.writeFailures = (calls.filterMap Call.refused?).length
  /-- The drain is terminal exactly if the encoder has reported end of stream. -/
  ended : s.drain.isTerminal = true ↔ .receive .endOfStream ∈ calls

variable {s s' : Session ε κ} {calls : List Call}

omit [Encoder ε] [Container κ] in
/-- More calls are accounted for if the session counts what they do. -/
theorem Accounted.extend (h : s.Accounted calls) (more : List Call) (intact : Intact more)
    (sent : s'.bound.framesSent = s.bound.framesSent + (more.filterMap Call.sent?).length)
    (taken : s'.drain.packetsWritten =
      s.drain.packetsWritten + (more.filterMap Call.taken?).length)
    (refused : s'.drain.writeFailures =
      s.drain.writeFailures + (more.filterMap Call.refused?).length)
    (ended : s'.drain.isTerminal = true ↔
      s.drain.isTerminal = true ∨ .receive .endOfStream ∈ more) :
    s'.Accounted (calls ++ more) := by
  constructor
  · exact h.intact.append intact
  · rw [sent, h.sent, List.filterMap_append, List.length_append]
  · rw [taken, h.taken, List.filterMap_append, List.length_append]
  · rw [refused, h.refused, List.filterMap_append, List.length_append]
  · rw [ended, h.ended, List.mem_append]

/-- A drain cycle is accounted for, unless a timestamp overflows. -/
theorem Accounted.after (h : s.Accounted calls) {more : List Call} {pts : Int64}
    {d : Drained ε κ} (cycled : s.Cycles pts more d) (fits : d.answer ≠ .error .addition) :
    (s.after d).Accounted (calls ++ more) := by
  cases cycled with
  | terminated _ => exact h.extend [] rfl rfl rfl rfl (by simp [Session.after])
  | @overflowed _ x e' o live pulled =>
    -- The packet in hand is lost: this is the case that the hypothesis excludes.
    obtain rfl := pulled.overflow_eq x rfl
    exact absurd rfl fits
  | @settled _ outcome e' o live pulled =>
    obtain ⟨hs, hw, hf⟩ := pulled.tally
    have he := pulled.endOfStream_iff outcome rfl
    refine h.extend more (pulled.intact outcome rfl) ?_ ?_ ?_ ?_
    · rw [hs]
      rfl
    · simp [Session.after, PacketDrain.settle, hw, PacketDrain.outlet]
    · simp [Session.after, PacketDrain.settle, hf, PacketDrain.outlet]
    · -- The drain was live, so that it is terminal after the cycle exactly if the cycle ended it.
      rw [live, ← he]
      by_cases ho : outcome = .endOfStream <;>
        simp [Session.after, PacketDrain.settle, PacketDrain.isTerminal, ho]

/-- A submission is accounted for, unless a timestamp overflows. -/
theorem Accounted.submitted (h : s.Accounted calls) {more : List Call} {f : CapturedFrame}
    {answer : Answer} (submitted : s.Submitted f more answer s')
    (fits : answer ≠ .error .addition) : s'.Accounted (calls ++ more) := by
  cases submitted with
  | refused _ => exact h.extend [] rfl rfl rfl rfl (by simp)
  | unsent _ _ => exact h.extend _ rfl rfl rfl rfl (by simp [withEncoder])
  | @drained pts e cycle d accepts sent cycled =>
    have hsent : (s.sending e pts).Accounted (calls ++ [.sendFrame (surface f pts) (.ok ())]) :=
      h.extend _ rfl rfl rfl rfl (by simp [sending])
    simpa using hsent.after cycled fits

/-- A flush is accounted for, unless a timestamp overflows. -/
theorem Accounted.flushed (h : s.Accounted calls) {more : List Call}
    {r : Except Overflow (Option SessionError)} (flushed : s.FlushedBy more r s')
    (fits : r ≠ .error .addition) : s'.Accounted (calls ++ more) := by
  cases flushed with
  | skipped _ => exact h.extend [] rfl rfl rfl rfl (by simp)
  | unsent _ _ _ => exact h.extend _ rfl rfl rfl rfl (by simp [withEncoder])
  | @drained before cycle s'' d live ends cycled =>
    have hends : s''.Accounted (calls ++ before) := by
      cases ends with
      | already _ => exact h.extend [] rfl rfl rfl rfl (by simp)
      | signalled _ _ => exact h.extend _ rfl rfl rfl rfl (by simp [ending])
    have hfits : d.answer ≠ .error .addition := by
      intro ha
      rw [ha] at fits
      exact fits rfl
    rw [← List.append_assoc]
    exact hends.after cycled hfits

/-- A flush ends in no other overflow than that of a tick. -/
theorem FlushedBy.overflow_eq {x : Overflow} (h : s.FlushedBy calls (.error x) s') :
    x = .addition := by
  generalize hr : (Except.error x : Except Overflow (Option SessionError)) = r at h
  cases h with
  | skipped _ => cases hr
  | unsent _ _ _ => cases hr
  | @drained _ _ _ d live ends cycled =>
    refine cycled.overflow_eq ?_
    rcases ha : d.answer with y | e | report
    · rw [ha] at hr
      exact congrArg _ (Except.error.inj hr).symm
    · rw [ha] at hr
      cases hr
    · rw [ha] at hr
      cases hr

/-- A session that is finished without an overflow is accounted for: its summary is what
happened. -/
theorem Accounted.finished (h : s.Accounted calls) {more : List Call} {duration : Duration}
    {finished : Finished κ} (ended : s.FinishedBy duration more finished)
    (fits : finished.result ≠ .error .addition) :
    ∃ s' : Session ε κ, s'.Accounted (calls ++ more) ∧
      ∀ summary, finished.result = .ok (.ok summary) → summary = s'.summary duration := by
  cases ended with
  | @overflowed more x s' flushed =>
    obtain rfl := flushed.overflow_eq
    exact absurd rfl fits
  | @completed more failure s' answer c flushed trailer =>
    have hflushed := h.flushed flushed (by simp)
    refine ⟨s', ?_, ?_⟩
    · rw [← List.append_assoc]
      exact hflushed.extend _ rfl rfl rfl rfl (by simp [BoundEncoder.releaseCalls])
    · intro summary hsum
      obtain ⟨-, rfl⟩ := outcome_ok.mp (Except.ok.inj hsum)
      rfl

/-- A session that has just started has nothing to account for. -/
theorem Accounted.start {b : SessionBuilder ε κ} {width height : UInt32} {format : SurfaceFormat}
    {now : Instant} (h : (b.start width height format now).value = .session s) :
    s.Accounted [] := by
  have hf := SessionBuilder.fresh_of_start h
  constructor
  · rfl
  · exact hf.framesSent
  · rw [hf.drain]
    rfl
  · rw [hf.drain]
    rfl
  · rw [hf.drain]
    simp [PacketDrain.isTerminal]

/-- In a run of a session that is then finished, in which no timestamp overflows, the packets handed
to the container are those received from the encoder, in order, none lost, doubled or altered but in
their stamps. The summary, if there is one, gives the number of frames that the encoder took, of
packets that the container took and of those that it refused, and says whether the encoder reported
end of stream. -/
theorem packets_accounted {b : SessionBuilder ε κ} {width height : UInt32} {format : SurfaceFormat}
    {start : Instant} (started : (b.start width height format start).value = .session s)
    (fs : List CapturedFrame) (now : Instant)
    (submits : .error .addition ∉ (s.submitAll fs).value.1)
    (finishes : ((s.submitAll fs).value.2.finish now).value.result ≠ .error .addition) :
    let ended := (s.submitAll fs).value.2.finish now
    let calls := (s.submitAll fs).calls ++ ended.calls
    (calls.filterMap Call.handed?).map Packet.content =
        (calls.filterMap Call.received?).map Packet.content ∧
      ∀ summary, ended.value.result = .ok (.ok summary) →
        summary.framesSubmitted = (calls.filterMap Call.sent?).length ∧
        summary.packetsWritten = (calls.filterMap Call.taken?).length ∧
        summary.writeFailures = (calls.filterMap Call.refused?).length ∧
        (summary.reachedEndOfStream = true ↔ .receive .endOfStream ∈ calls) := by
  -- The accounts are kept from submission to submission; `Ran.keeps` does the induction.
  have hrun : (s.submitAll fs).value.2.Accounted (s.submitAll fs).calls := by
    refine Ran.keeps (I := fun calls answers s' => .error .addition ∉ answers →
      s'.Accounted calls) ?_ ?_ (s.submitAll_ran fs) submits
    · exact fun _ => .start started
    · intro f calls more answers answer s' s'' h hsub hfits
      rw [List.mem_append, List.mem_singleton, not_or] at hfits
      exact (h hfits.1).submitted hsub (Ne.symm hfits.2)
  intro ended calls
  obtain ⟨s', hs, hsummary⟩ :=
    hrun.finished ((s.submitAll fs).value.2.finish_finishedBy now) finishes
  refine ⟨hs.intact, ?_⟩
  intro summary hok
  obtain rfl := hsummary summary hok
  exact ⟨hs.sent, hs.taken, hs.refused, hs.ended⟩

/-- A session that is given two frames gives three packets, and accounts for them. -/
theorem packets_accounted_sample :
    let ran := sampleSession.submitAll [sampleFrame .zero, sampleFrame .zero]
    let ended := ran.value.2.finish ⟨1⟩
    let calls := ran.calls ++ ended.calls
    ended.value.result = .ok (.ok ⟨2, 3, 0, true, .ofNanos 1⟩) ∧
      (calls.filterMap Call.handed?).map Packet.content =
        (calls.filterMap Call.received?).map Packet.content ∧
      2 = (calls.filterMap Call.sent?).length ∧ 3 = (calls.filterMap Call.taken?).length ∧
      0 = (calls.filterMap Call.refused?).length ∧ .receive .endOfStream ∈ calls := by
  have hsubmits : (sampleSession.submitAll [sampleFrame .zero, sampleFrame .zero]).value.1 =
      [.ok (.ok ⟨1, 6, 0, .exhausted⟩), .ok (.ok ⟨1, 6, 0, .exhausted⟩)] := by
    cbv
  have hfinishes :
      ((sampleSession.submitAll [sampleFrame .zero, sampleFrame .zero]).value.2.finish
        ⟨1⟩).value.result = .ok (.ok ⟨2, 3, 0, true, .ofNanos 1⟩) := by
    have hstarted : (sampleSession.submitAll
        [sampleFrame .zero, sampleFrame .zero]).value.2.started = ⟨0⟩ := by
      cbv
    -- The duration is kept out of the evaluation, which would open the bound that it carries.
    have hsince : Instant.since ⟨1⟩ ⟨0⟩ = .ofNanos 1 := rfl
    rw [finish_result, hstarted, ← hsince]
    generalize Instant.since ⟨1⟩ ⟨0⟩ = duration
    cbv
  intro ran ended calls
  obtain ⟨hintact, hsummary⟩ := packets_accounted sampleBuilder_starts
    [sampleFrame .zero, sampleFrame .zero] ⟨1⟩ (by rw [hsubmits]; simp) (by rw [hfinishes]; simp)
  obtain ⟨hs, ht, hr, he⟩ := hsummary _ hfinishes
  exact ⟨hfinishes, hintact, hs, ht, hr, he.mp rfl⟩

end Session

end Framecast

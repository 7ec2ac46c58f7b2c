import Framecast.Proofs.Encoder.Dialogue
import Framecast.Proofs.Session.Accounts
import Framecast.Proofs.Session.Sample

/-!
# A session asks its encoder in turn

Between submissions the dialogue of a session with its encoder stands ready, or closed if the drain
is terminal (`Converses`), as long as no timestamp overflows: a frame is sent only where the drain
is live, and the cycle that follows settles what is owed for it. Finishing signals the end of input
where the drain is live, and asks for packets once more.

An overflow leaves a frame unsettled, and the next one would be sent out of turn.
-/

namespace Framecast

open Journaled

variable {ε κ : Type} [Encoder ε] [Container κ]

namespace Session

/-- By these calls the dialogue with the encoder came to stand where the session has it. -/
structure Converses (calls : List Call) (s : Session ε κ) : Prop where
  /-- It is closed if the drain is terminal, and the next frame may be sent otherwise. -/
  stands : Dialogue .ready calls (if s.drain.isTerminal then .closed else .ready)
  /-- The end of input has not been signalled, says the session. -/
  unflushed : s.bound.flushed = false
  /-- Nor has it, by the calls. -/
  unended : ∀ answer, .sendEnd answer ∉ calls

variable {s s' : Session ε κ} {calls more : List Call}

/-- A drain cycle that does not overflow the last tick has a result. -/
theorem Cycles.fits {pts : Int64} {d : Drained ε κ} (h : s.Cycles pts calls d)
    (fits : d.answer ≠ .error .addition) (x : Overflow) : d.result ≠ .error x := by
  intro hr
  have hanswer : d.answer = .error x := by
    unfold Drained.answer
    rw [hr]
  obtain rfl := h.overflow_eq hanswer
  exact fits hanswer

omit [Encoder ε] [Container κ] in
/-- The dialogue of a live session is ready. -/
theorem Converses.ready (h : s.Converses calls) (live : s.drain.isTerminal = false) :
    Dialogue .ready calls .ready := by
  have hstands := h.stands
  rw [live] at hstands
  exact hstands

/-- A submission in which no timestamp overflows keeps the dialogue where the session has it. -/
theorem Converses.submitted (h : s.Converses calls) {f : CapturedFrame} {answer : Answer}
    (submitted : s.Submitted f more answer s') (fits : answer ≠ .error .addition) :
    s'.Converses (calls ++ more) := by
  cases submitted with
  | refused _ =>
    rw [List.append_nil]
    exact h
  | @unsent pts fault e accepts sent =>
    constructor
    · have hstands :
          Dialogue .ready (calls ++ [.sendFrame (surface f pts) (.error fault)]) .ready :=
        (h.ready accepts.live).append (.turn rfl rfl)
      show Dialogue .ready _ (if s.drain.isTerminal then .closed else .ready)
      rw [accepts.live]
      exact hstands
    · exact h.unflushed
    · simp [h.unended]
  | @drained pts e cycle d accepts sent cycled =>
    -- The frame opens a debt, which the cycle settles or the end of stream cancels.
    have hlive : (s.sending e pts).drain.isTerminal = false := accepts.live
    have howed : Standing.owed.listens = true := rfl
    obtain ⟨outcome, hcycle, hterminal⟩ := cycled.dialogue hlive (cycled.fits fits) howed
    have hsent : Dialogue .ready [.sendFrame (surface f pts) (.ok ())] .owed := .turn rfl rfl
    constructor
    · have hstands := (h.ready accepts.live).append (hsent.append hcycle)
      show Dialogue .ready _ (if d.drain.isTerminal then .closed else .ready)
      cases ht : d.drain.isTerminal with
      | true =>
        obtain rfl := hterminal.mp ht
        exact hstands
      | false =>
        have ho : outcome ≠ .endOfStream := by
          intro ho
          rw [hterminal.mpr ho] at ht
          cases ht
        cases outcome with
        | endOfStream => exact absurd rfl ho
        | exhausted => exact hstands
        | stalled f => exact hstands
    · exact h.unflushed
    · intro answer hmem
      rcases List.mem_append.mp hmem with hmem | hmem
      · exact h.unended answer hmem
      · rcases List.mem_cons.mp hmem with heq | hmem
        · cases heq
        · cases cycled.transfers _ hmem

/-- A session that has just started has asked the encoder nothing. -/
theorem Converses.start {b : SessionBuilder ε κ} {width height : UInt32} {format : SurfaceFormat}
    {now : Instant} (h : (b.start width height format now).value = .session s) :
    s.Converses [] := by
  have hfresh := SessionBuilder.fresh_of_start h
  constructor
  · rw [hfresh.drain]
    rfl
  · exact hfresh.unflushed
  · exact fun _ => List.not_mem_nil

/-- A flush in which no timestamp overflows leaves no frame unsettled. -/
theorem Converses.flushed (h : s.Converses calls) {r : Except Overflow (Option SessionError)}
    (flushed : s.FlushedBy more r s') (fits : r ≠ .error .addition) :
    ∃ st, Dialogue .ready (calls ++ more) st ∧ st ≠ .owed := by
  cases flushed with
  | skipped terminal =>
    have hstands := h.stands
    rw [terminal] at hstands
    rw [List.append_nil]
    exact ⟨.closed, hstands, by decide⟩
  | @unsent fault e live unflushed sent =>
    exact ⟨.closing, (h.ready live).append (.turn rfl rfl), by decide⟩
  | @drained before cycle s'' d live ends cycled =>
    cases ends with
    | already flushed =>
      rw [h.unflushed] at flushed
      cases flushed
    | @signalled e unflushed sent =>
      have hfits : d.answer ≠ .error .addition := by
        intro ha
        rw [ha] at fits
        exact fits rfl
      have hclosing : Standing.closing.listens = true := rfl
      obtain ⟨outcome, hcycle, -⟩ := cycled.dialogue live (cycled.fits hfits) hclosing
      have hended : Dialogue .ready [.sendEnd (.ok ())] .closing := .turn rfl rfl
      refine ⟨_, (h.ready live).append (hended.append hcycle), ?_⟩
      cases outcome <;> simp [Standing.hear]

/-- A session that is finished without an overflow leaves no frame unsettled. -/
theorem Converses.finished (h : s.Converses calls) {duration : Duration} {finished : Finished κ}
    (ended : s.FinishedBy duration more finished) (fits : finished.result ≠ .error .addition) :
    ∃ st, Dialogue .ready (calls ++ more) st ∧ st ≠ .owed := by
  cases ended with
  | @overflowed more x s' flushed =>
    obtain rfl := flushed.overflow_eq
    exact absurd rfl fits
  | @completed more failure s' answer c flushed trailer =>
    obtain ⟨st, hstands, hsettled⟩ := h.flushed flushed (by simp)
    have haside : Dialogue st (.writeTrailer answer :: .release .container ::
        s'.bound.releaseCalls) st :=
      .aside (by simp [BoundEncoder.releaseCalls, Call.asksEncoder])
    refine ⟨st, ?_, hsettled⟩
    rw [← List.append_assoc]
    exact hstands.append haside

/-- In a run of a session in which no timestamp overflows, the encoder is asked in turn: a frame
that it took is followed by questions for packets up to the first answer that is none, nothing but
packets is asked for after the end of input, which only finishing signals, and nothing after the end
of the stream. -/
theorem encoder_asked_in_turn {b : SessionBuilder ε κ} {width height : UInt32}
    {format : SurfaceFormat} {start : Instant}
    (started : (b.start width height format start).value = .session s) (fs : List CapturedFrame)
    (now : Instant) (submits : .error .addition ∉ (s.submitAll fs).value.1) :
    let ran := s.submitAll fs
    let ended := ran.value.2.finish now
    Courteous ran.calls ∧ (∀ answer, .sendEnd answer ∉ ran.calls) ∧
      (ended.value.result ≠ .error .addition → Courteous (ran.calls ++ ended.calls)) := by
  -- The dialogue is carried from submission to submission; `Ran.keeps` does the induction.
  have hrun : (s.submitAll fs).value.2.Converses (s.submitAll fs).calls := by
    refine Ran.keeps (I := fun calls answers s' => .error .addition ∉ answers →
      s'.Converses calls) ?_ ?_ (s.submitAll_ran fs) submits
    · exact fun _ => .start started
    · intro f calls more answers answer s' s'' h hsub hfits
      rw [List.mem_append, List.mem_singleton, not_or] at hfits
      exact (h hfits.1).submitted hsub (Ne.symm hfits.2)
  intro ran ended
  refine ⟨?_, hrun.unended, ?_⟩
  · apply hrun.stands.courteous
    cases ran.value.2.drain.isTerminal <;> simp
  · intro hfits
    obtain ⟨st, hstands, hsettled⟩ := hrun.finished (ran.value.2.finish_finishedBy now) hfits
    exact hstands.courteous hsettled

/-- The encoder of a session that is given two frames is asked in turn, to the end of its stream. -/
theorem encoder_asked_in_turn_sample :
    let ran := sampleSession.submitAll [sampleFrame .zero, sampleFrame .zero]
    let ended := ran.value.2.finish ⟨1⟩
    ran.value.1 = [.ok (.ok ⟨1, 6, 0, .exhausted⟩), .ok (.ok ⟨1, 6, 0, .exhausted⟩)] ∧
      ended.value.result ≠ .error .addition ∧
      ran.value.2.flush.value.2.drain.isTerminal = true ∧
      Courteous ran.calls ∧ (∀ answer, .sendEnd answer ∉ ran.calls) ∧
      Courteous (ran.calls ++ ended.calls) := by
  intro ran ended
  have hsubmits : ran.value.1 =
      [.ok (.ok ⟨1, 6, 0, .exhausted⟩), .ok (.ok ⟨1, 6, 0, .exhausted⟩)] := by
    cbv
  have hflush : ran.value.2.flush.value.1 = .ok none := by cbv
  have hend : ran.value.2.flush.value.2.drain.isTerminal = true := by cbv
  have hfinishes : ended.value.result ≠ .error .addition := by
    show (ran.value.2.finish ⟨1⟩).value.result ≠ .error .addition
    rw [finish_result, hflush]
    simp [Except.map]
  obtain ⟨hran, hunended, hended⟩ := encoder_asked_in_turn sampleBuilder_starts
    [sampleFrame .zero, sampleFrame .zero] ⟨1⟩ (by rw [hsubmits]; simp)
  exact ⟨hsubmits, hfinishes, hend, hran, hunended, hended hfinishes⟩

end Session

end Framecast

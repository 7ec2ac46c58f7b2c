import Framecast.Proofs.Session.Submitted
import Framecast.Session.Finish

/-!
# What finishing a session does

Finishing flushes the encoder (`FlushedBy`), and then either writes the trailer and lets go of
everything, the container first, or, after an overflow, only lets go, the container last.
`finish_finishedBy` says that there is no other way, and which calls are made on each.
-/

namespace Framecast

open Journaled

variable {ε κ : Type} [Encoder ε] [Container κ]

namespace Session

omit [Encoder ε] in
/-- The last three phases let go of a bound encoder in reverse order. -/
@[simp] theorem calls_releaseBound (b : BoundEncoder ε) :
    (releaseBound b).calls = b.releaseCalls := by
  simp [releaseBound, announceEnd, BoundEncoder.releaseCalls]

omit [Encoder ε] [Container κ] in
/-- A session that is dropped lets go of the container first. -/
@[simp] theorem calls_release (s : Session ε κ) :
    s.release.calls = .release .container :: s.bound.releaseCalls := by
  simp [release]

/-! ## Flushing -/

/-- The session after the end of input was signalled. -/
def ending (s : Session ε κ) (e : ε) : Session ε κ :=
  { s with bound := { s.bound with encoder := e, flushed := true } }

/-- The end of input is signalled, unless that has been done. -/
inductive EndsInput (s : Session ε κ) : List Call → Session ε κ → Prop
  /-- It has been signalled before. -/
  | already (flushed : s.bound.flushed = true) : EndsInput s [] s
  /-- It is signalled now. -/
  | signalled {e : ε} (unflushed : s.bound.flushed = false)
      (sent : Encoder.sendEnd s.bound.encoder = (.ok (), e)) :
      EndsInput s [.sendEnd (.ok ())] (s.ending e)

/-- The failure of a flush, from the answer of its drain cycle. -/
def flushError? : Answer → Except Overflow (Option SessionError)
  | .error x => .error x
  | .ok (.error e) => .ok (some e)
  | .ok (.ok _) => .ok none

/-- What flushing a session does: these calls, this failure if any, this session. -/
inductive FlushedBy (s : Session ε κ) :
    List Call → Except Overflow (Option SessionError) → Session ε κ → Prop
  /-- The encoder has reported end of stream, so that nothing is asked of it. -/
  | skipped (terminal : s.drain.isTerminal = true) : FlushedBy s [] (.ok none) s
  /-- The encoder refuses the end of input. -/
  | unsent {fault : Fault} {e : ε} (live : s.drain.isTerminal = false)
      (unflushed : s.bound.flushed = false)
      (sent : Encoder.sendEnd s.bound.encoder = (.error fault, e)) :
      FlushedBy s [.sendEnd (.error fault)] (.ok (some (.encoder (.sendFailed fault))))
        (s.withEncoder e)
  /-- A drain cycle follows the end of input. -/
  | drained {before calls : List Call} {s' : Session ε κ} {d : Drained ε κ}
      (live : s.drain.isTerminal = false) (ends : s.EndsInput before s')
      (cycled : s'.Cycles (s.lastPts.getD 0) calls d) :
      FlushedBy s (before ++ calls) (flushError? d.answer) (s'.after d)

/-- Saying how the last cycle ended is no call. -/
@[simp] theorem calls_reportFlush (r : Except SessionError DrainReport) :
    (reportFlush r).calls = [] := by
  rcases r with e | ⟨_, _, _, _ | _ | _⟩ <;> rfl

/-- Flushing goes on with a drain cycle once the end of input is signalled. -/
theorem flush_drained {s : Session ε κ} {b : BoundEncoder ε} (live : s.drain.isTerminal = false)
    (hb : s.bound.flush.value = (.ok (), b))
    (ends : s.EndsInput s.bound.flush.calls { s with bound := b }) :
    FlushedBy s s.flush.calls s.flush.value.1 s.flush.value.2 := by
  obtain ⟨d, hd, hv⟩ := { s with bound := b }.drainAfter_cycles (s.lastPts.getD 0)
  have hc : s.flush.calls = s.bound.flush.calls ++
      ({ s with bound := b }.drainAfter (s.lastPts.getD 0)).calls := by
    rcases hr : d.answer with x | e | report <;> simp [flush, live, hb, hv, hr]
  have hr : s.flush.value = (flushError? d.answer, { s with bound := b }.after d) := by
    rcases hr : d.answer with x | e | report <;> simp [flush, live, hb, hv, hr, flushError?]
  rw [hc, hr]
  exact .drained live ends hd

/-- Flushing goes one of these ways. -/
theorem flush_flushedBy (s : Session ε κ) :
    FlushedBy s s.flush.calls s.flush.value.1 s.flush.value.2 := by
  cases ht : s.drain.isTerminal with
  | true => simpa [flush, ht] using FlushedBy.skipped ht
  | false =>
    cases hf : s.bound.flushed with
    | true =>
      have hc : s.bound.flush.calls = [] := by simp [BoundEncoder.flush, hf]
      refine flush_drained ht (b := s.bound) (by simp [BoundEncoder.flush, hf]) ?_
      rw [hc]
      exact .already hf
    | false =>
      rcases hs : Encoder.sendEnd s.bound.encoder with ⟨fault | u, e⟩
      · obtain ⟨hc, hv⟩ := s.bound.flush_sent hf hs
        have hc' : s.flush.calls = [.sendEnd (.error fault)] := by simp [flush, ht, hc, hv]
        have hv' : s.flush.value =
            (.ok (some (.encoder (.sendFailed fault))), s.withEncoder e) := by
          simp [flush, ht, hv, withEncoder]
        rw [hc', hv']
        exact .unsent ht hf hs
      · obtain ⟨hc, hv⟩ := s.bound.flush_sent hf hs
        refine flush_drained ht hv ?_
        rw [hc]
        exact .signalled hf hs

/-! ## Finishing -/

/-- The failure of the trailer, if it failed. -/
def trailerError? : Except Fault Unit → Option SessionError
  | .ok () => none
  | .error f => some (.mux (.trailerFailed f))

/-- The answer of a session: its first failure, or what it amounts to. -/
def outcome (failure : Option SessionError) (summary : SessionSummary) :
    Except SessionError SessionSummary :=
  match failure with
  | some e => .error e
  | none => .ok summary

/-- A session amounts to something if nothing failed. -/
theorem outcome_ok {failure : Option SessionError} {summary x : SessionSummary} :
    outcome failure summary = .ok x ↔ failure = none ∧ summary = x := by
  cases failure <;> simp [outcome]

/-- What finishing a session after so long does: these calls, this end. -/
inductive FinishedBy (s : Session ε κ) (duration : Duration) : List Call → Finished κ → Prop
  /-- A stamp overflows while the encoder is drained: everything is let go, the container last. -/
  | overflowed {calls : List Call} {x : Overflow} {s' : Session ε κ}
      (flushed : s.FlushedBy calls (.error x) s') :
      FinishedBy s duration (calls ++ s'.bound.releaseCalls ++ [.release .container])
        ⟨.error x, s'.container⟩
  /-- The trailer is written and everything is let go, the container first. The answer is the first
  failure. -/
  | completed {calls : List Call} {failure : Option SessionError} {s' : Session ε κ}
      {answer : Except Fault Unit} {c : κ} (flushed : s.FlushedBy calls (.ok failure) s')
      (trailer : Container.writeTrailer s'.container = (answer, c)) :
      FinishedBy s duration
        (calls ++ .writeTrailer answer :: .release .container :: s'.bound.releaseCalls)
        ⟨.ok (outcome (failure.or (trailerError? answer)) (s'.summary duration)), c⟩

omit [Encoder ε] in
/-- Writing the trailer, by what the container says to it. -/
theorem endOutput_eq {s : Session ε κ} {answer : Except Fault Unit} {c : κ}
    (trailer : Container.writeTrailer s.container = (answer, c)) :
    s.endOutput.value = (trailerError? answer, c) ∧ s.endOutput.calls = [.writeTrailer answer] := by
  cases answer <;> simp [endOutput, trailer, trailerError?]

/-- Finishing goes one of these ways. -/
theorem finish_finishedBy (s : Session ε κ) (now : Instant) :
    s.FinishedBy (now.since s.started) (s.finish now).calls (s.finish now).value := by
  have hf := s.flush_flushedBy
  unfold finish
  generalize s.flush = x at hf ⊢
  obtain ⟨⟨r, s'⟩, entries⟩ := x
  rcases r with x | failure
  · simpa [announceEnd] using FinishedBy.overflowed hf
  · rcases ht : Container.writeTrailer s'.container with ⟨answer, c⟩
    obtain ⟨hv, hc⟩ := endOutput_eq ht
    have h : s.FinishedBy (now.since s.started) _ _ := .completed hf ht
    cases hfail : failure.or (trailerError? answer) <;>
      simpa [announceEnd, hv, hc, hfail, outcome] using h

/-- The answer of a session that is finished, from its flush and its trailer. -/
theorem finish_result (s : Session ε κ) (now : Instant) :
    (s.finish now).value.result = s.flush.value.1.map fun failure =>
      outcome (failure.or s.flush.value.2.endOutput.value.1)
        (s.flush.value.2.summary (now.since s.started)) := by
  unfold finish
  rcases hf : s.flush.value.1 with x | failure
  · simp [hf, Except.map]
  · cases hfail : failure.or s.flush.value.2.endOutput.value.1 <;>
      simp [hf, hfail, Except.map, outcome]

/-- The calls by which a session is finished whose flush does not overflow. -/
theorem finish_calls (s : Session ε κ) (now : Instant) {failure : Option SessionError}
    (flushed : s.flush.value.1 = .ok failure) :
    (s.finish now).calls = s.flush.calls ++ s.flush.value.2.endOutput.calls ++
      .release .container :: s.flush.value.2.bound.releaseCalls := by
  unfold finish
  cases hfail : failure.or s.flush.value.2.endOutput.value.1 <;>
    simp [announceEnd, flushed, hfail]

end Session

end Framecast

import Framecast.Proofs.Drain.Pulled
import Framecast.Proofs.Encoder.Bound
import Framecast.Session.Basic

/-!
# What submitting a frame does

A frame is refused before anything is asked of the encoder, or the encoder refuses it, or the
encoder takes it and a drain cycle follows. `Refusal` lists the first kind with their conditions, in
the order of the checks, and `submit_submitted` says that every submission is of one of the three
kinds.
-/

namespace Framecast

open Journaled

variable {ε κ : Type} [Encoder ε] [Container κ]

/-- What a session answers to a frame. -/
abbrev Answer : Type := Except Overflow (Except SessionError DrainReport)

/-- What a session answers after a drain cycle. -/
def Drained.answer (d : Drained ε κ) : Answer :=
  match d.result with
  | .error x => .error x
  | .ok (.error e) => .ok (.error (.mux e))
  | .ok (.ok report) => .ok (.ok report)

omit [Encoder ε] [Container κ] in
/-- A session answers with a report if its drain cycle does. -/
theorem Drained.answer_ok {d : Drained ε κ} {report : DrainReport} :
    d.answer = .ok (.ok report) ↔ d.result = .ok (.ok report) := by
  unfold answer
  rcases d.result with x | e | r <;> simp

namespace Session

/-- The session with another encoder state. -/
def withEncoder (s : Session ε κ) (e : ε) : Session ε κ :=
  { s with bound := { s.bound with encoder := e } }

/-- The session after the encoder took a frame with this timestamp. -/
def sending (s : Session ε κ) (e : ε) (pts : Int64) : Session ε κ :=
  { s with
    bound := { s.bound with encoder := e, framesSent := s.bound.framesSent + 1 }
    lastPts := some pts }

/-- The session after a drain cycle. -/
def after (s : Session ε κ) (d : Drained ε κ) : Session ε κ :=
  { s with
    drain := d.drain
    container := d.container
    bound := { s.bound with encoder := d.encoder } }

/-- The timestamp of a frame, if no other precedes it. -/
def ticks (s : Session ε κ) (f : CapturedFrame) : Int64 :=
  s.bound.config.timeBase.ticks f.timestamp.sinceStart

/-- The drain cycle of a session for a timestamp. -/
abbrev Cycles (s : Session ε κ) (pts : Int64) (calls : List Call) (d : Drained ε κ) : Prop :=
  Cycled s.drain s.bound.encoder s.bound.config.timeBase s.stream pts s.container calls d

/-- The frame has the size that the pool was made for, up to an odd row or column. -/
def FitsPool (s : Session ε κ) (f : CapturedFrame) : Prop :=
  evenFloor f.width = s.bound.pool.shape.width ∧ evenFloor f.height = s.bound.pool.shape.height

omit [Encoder ε] [Container κ] in
/-- A frame does not have the size of the pool if its width or its height differs. -/
theorem not_fitsPool {s : Session ε κ} {f : CapturedFrame} :
    ¬ s.FitsPool f ↔ evenFloor f.width ≠ s.bound.pool.shape.width ∨
      evenFloor f.height ≠ s.bound.pool.shape.height :=
  Classical.not_and_iff_not_or_not

/-- Why a frame does not reach the encoder, and what is answered then. Each reason applies where
those before it do not. -/
inductive Refusal (s : Session ε κ) (f : CapturedFrame) : Answer → Prop
  /-- The size of a row overflows. -/
  | rowOverflow {x : Overflow} (row : f.isValid = .error x) : Refusal s f (.error x)
  /-- There is no usable surface. -/
  | invalid (valid : f.isValid = .ok false) :
      Refusal s f (.ok (.error (.invalidFrame f.sequence)))
  /-- The encoder has reported end of stream. -/
  | terminated (valid : f.isValid = .ok true) (terminal : s.drain.isTerminal = true) :
      Refusal s f (.ok (.error (.mux .encoderTerminated)))
  /-- The timestamp overflows. -/
  | stampOverflow {x : Overflow} (valid : f.isValid = .ok true) (live : s.drain.isTerminal = false)
      (stamp : nextStamp s.lastPts (s.ticks f) = .error x) : Refusal s f (.error x)
  /-- The end of input has been signalled. -/
  | flushed {pts : Int64} (valid : f.isValid = .ok true) (live : s.drain.isTerminal = false)
      (stamp : nextStamp s.lastPts (s.ticks f) = .ok pts) (flushed : s.bound.flushed = true) :
      Refusal s f (.ok (.error (.encoder .alreadyFlushed)))
  /-- The frame has another size than the pool. -/
  | resized {pts : Int64} (valid : f.isValid = .ok true) (live : s.drain.isTerminal = false)
      (stamp : nextStamp s.lastPts (s.ticks f) = .ok pts) (unflushed : s.bound.flushed = false)
      (size : ¬ s.FitsPool f) :
      Refusal s f (.ok (.error (.encoder (.resolutionChanged
        (s.bound.pool.shape.width, s.bound.pool.shape.height) (f.width, f.height)))))
  /-- The frame has another layout than the pool. -/
  | reformatted {pts : Int64} (valid : f.isValid = .ok true) (live : s.drain.isTerminal = false)
      (stamp : nextStamp s.lastPts (s.ticks f) = .ok pts) (unflushed : s.bound.flushed = false)
      (size : s.FitsPool f) (layout : f.format.pixelFormat ≠ s.bound.pool.shape.layout) :
      Refusal s f (.ok (.error (.encoder (.formatMismatch
        s.bound.pool.shape.layout f.format.pixelFormat))))

/-- A frame passes every check, with this timestamp. -/
structure Accepts (s : Session ε κ) (f : CapturedFrame) (pts : Int64) : Prop where
  /-- It has a usable surface. -/
  valid : f.isValid = .ok true
  /-- The encoder has not reported end of stream. -/
  live : s.drain.isTerminal = false
  /-- The timestamp is the next one. -/
  stamp : nextStamp s.lastPts (s.ticks f) = .ok pts
  /-- The end of input has not been signalled. -/
  unflushed : s.bound.flushed = false
  /-- It has the size of the pool. -/
  size : s.FitsPool f
  /-- It has the layout of the pool. -/
  layout : f.format.pixelFormat = s.bound.pool.shape.layout

/-- What submitting a frame does: these calls, this answer, this session. -/
inductive Submitted (s : Session ε κ) (f : CapturedFrame) :
    List Call → Answer → Session ε κ → Prop
  /-- The frame does not reach the encoder, and nothing changes. -/
  | refused {answer : Answer} (refusal : Refusal s f answer) : Submitted s f [] answer s
  /-- The encoder refuses the frame. -/
  | unsent {pts : Int64} {fault : Fault} {e : ε} (accepts : s.Accepts f pts)
      (sent : Encoder.sendFrame s.bound.encoder (surface f pts) = (.error fault, e)) :
      Submitted s f [.sendFrame (surface f pts) (.error fault)]
        (.ok (.error (.encoder (.sendFailed fault)))) (s.withEncoder e)
  /-- The encoder takes the frame, and a drain cycle follows. -/
  | drained {pts : Int64} {e : ε} {calls : List Call} {d : Drained ε κ} (accepts : s.Accepts f pts)
      (sent : Encoder.sendFrame s.bound.encoder (surface f pts) = (.ok (), e))
      (cycled : (s.sending e pts).Cycles pts calls d) :
      Submitted s f (.sendFrame (surface f pts) (.ok ()) :: calls) d.answer
        ((s.sending e pts).after d)

/-- Draining after a frame is a drain cycle. -/
theorem drainAfter_cycles (s : Session ε κ) (pts : Int64) :
    ∃ d, s.Cycles pts (s.drainAfter pts).calls d ∧
      (s.drainAfter pts).value = (d.answer, s.after d) := by
  have hc := cycle_cycled s.drain s.bound.encoder s.bound.config.timeBase s.stream pts s.container
  unfold drainAfter Cycles
  -- What matters of the cycle is that it is one.
  generalize s.drain.cycle s.bound.encoder s.bound.config.timeBase s.stream pts s.container = x
    at hc ⊢
  obtain ⟨d, entries⟩ := x
  refine ⟨d, ?_⟩
  rcases hr : d.result with x | e | report
  · exact ⟨by simpa [hr] using hc, by simp [hr, Drained.answer, after]⟩
  · exact ⟨by simpa [hr] using hc, by simp [hr, Drained.answer, after]⟩
  · exact ⟨by simpa [hr] using hc, by simp [hr, Drained.answer, after]⟩

/-- A frame with a timestamp reaches the encoder if the end of input has not been signalled and the
frame has the size and the layout of the pool. -/
theorem submitAt_submitted (s : Session ε κ) (f : CapturedFrame) (pts : Int64)
    (valid : f.isValid = .ok true) (live : s.drain.isTerminal = false)
    (stamp : nextStamp s.lastPts (s.ticks f) = .ok pts) :
    Submitted s f (s.submitAt f pts).calls (s.submitAt f pts).value.1
      (s.submitAt f pts).value.2 := by
  unfold submitAt
  cases hf : s.bound.flushed with
  | true =>
    simpa [BoundEncoder.submit, hf] using Submitted.refused (.flushed valid live stamp hf)
  | false =>
    by_cases hsize : s.FitsPool f
    · by_cases hlayout : f.format.pixelFormat = s.bound.pool.shape.layout
      · have haccepts : s.Accepts f pts := ⟨valid, live, stamp, hf, hsize, hlayout⟩
        have hsize' := mt not_fitsPool.mpr (not_not_intro hsize)
        rcases hs : Encoder.sendFrame s.bound.encoder (surface f pts) with ⟨fault | u, e⟩
        · obtain ⟨hc, hv⟩ := s.bound.submit_handed (surface f pts) hf hsize' hlayout hs
          simp only [calls_bind, value_bind, hc, hv]
          exact .unsent haccepts hs
        · obtain ⟨hc, hv⟩ := s.bound.submit_handed (surface f pts) hf hsize' hlayout hs
          obtain ⟨d, hd, hv'⟩ := (s.sending e pts).drainAfter_cycles pts
          simp only [calls_bind, value_bind, hc, hv]
          -- The session that is drained is the one that has counted the frame.
          show Submitted s f (.sendFrame (surface f pts) (.ok ()) ::
            ((s.sending e pts).drainAfter pts).calls) ((s.sending e pts).drainAfter pts).value.1
            ((s.sending e pts).drainAfter pts).value.2
          rw [hv']
          exact .drained haccepts hs hd
      · have hsize' := mt not_fitsPool.mpr (not_not_intro hsize)
        simpa [BoundEncoder.submit, surface, hf, hsize', hlayout] using
          Submitted.refused (.reformatted valid live stamp hf hsize hlayout)
    · simpa [BoundEncoder.submit, surface, hf, not_fitsPool.mp hsize] using
        Submitted.refused (.resized valid live stamp hf hsize)

/-- Every submission is of one of the three kinds. -/
theorem submit_submitted (s : Session ε κ) (f : CapturedFrame) :
    Submitted s f (s.submit f).calls (s.submit f).value.1 (s.submit f).value.2 := by
  unfold submit
  rcases hv : f.isValid with x | _ | _
  · exact .refused (.rowOverflow hv)
  · exact .refused (.invalid hv)
  cases ht : s.drain.isTerminal with
  | true => exact .refused (.terminated hv ht)
  | false =>
    rcases hn : nextStamp s.lastPts (s.ticks f) with x | pts
    · have hn' := hn
      unfold ticks at hn'
      simp only [hn']
      exact .refused (.stampOverflow hv ht hn)
    · have hn' := hn
      unfold ticks at hn'
      simp only [hn']
      exact s.submitAt_submitted f pts hv ht hn

end Session

end Framecast

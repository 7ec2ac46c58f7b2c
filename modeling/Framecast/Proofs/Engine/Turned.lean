import Framecast.Engine.CaptureLoop
import Framecast.Proofs.Tidings

/-!
# What a turn of the capture loop does

A turn of a loop that runs asks the source for one frame and submits it, and the answers decide
whether the loop goes on, or returns and why (`Turned`). Or the loop breaks down in the turn, for
one of three reasons (`Breaks`), and lets go of the pipeline and the source as they are.
`turn_cases` says that there is nothing else. What the loop counts for its log lines is left open.
-/

namespace Framecast

open Journaled

/-- The counters after a frame was submitted and answered. -/
def Metrics.counting (m : Metrics) (f : CapturedFrame) (answer : Except SessionError DrainReport) :
    Metrics :=
  let m := if f.isNew then m else m.recordRepeated
  match answer with
  | .ok report => m.recordDrain report
  | .error _ => m

namespace CaptureLoop

variable {σ π : Type}

/-- Why a loop returns whose source has no more frames. -/
def lossReason : CaptureError → StopReason
  | .stopped => .userRequested
  | e => .captureLost e.message

/-- How the answer to a frame ends the loop, if it does. -/
def endAfter : Except SessionError DrainReport → Option LoopEnd
  | .ok report => if report.outcome = .endOfStream then some (.returned .endOfStream) else none
  | .error e =>
    if e.isRecoverable then none
    else if e.isEndOfStream then some (.returned .endOfStream)
    else some (.returned (.encoderError e.message))

variable [FrameSource σ] [Pipeline π]

/-- The calls by which the loop asks its source for a frame. -/
def pollCalls (l : CaptureLoop σ π) : List Call :=
  .nextFrame l.interval :: (FrameSource.nextFrame l.source l.interval).calls

/-- The calls by which the loop submits a frame. -/
def submitCalls (l : CaptureLoop σ π) (f : CapturedFrame) : List Call :=
  .submit f :: (Pipeline.submit l.pipeline f).calls

/-- What a turn does that the loop survives: these calls, this loop and these counters. -/
inductive Turned (l : CaptureLoop σ π) (m : Metrics) (stop : Bool) :
    List Call → CaptureLoop σ π × Metrics → Prop
  /-- The loop has ended before. -/
  | idle (ended : l.ended.isSome = true) : Turned l m stop [] (l, m)
  /-- The loop is told to stop. -/
  | stopped (running : l.ended = none) (told : stop = true) :
      Turned l m stop [] ({ l with ended := some (.returned .userRequested) }, m)
  /-- No frame came in time. -/
  | unfed {source : σ} {t : Instant} (running : l.ended = none) (untold : stop = false)
      (polled : (FrameSource.nextFrame l.source l.interval).value = (.nothing, source)) :
      Turned l m stop l.pollCalls ({ l with source, lastStatus := t }, m)
  /-- The source has no more frames. -/
  | lost {e : CaptureError} {source : σ} {t : Instant} (running : l.ended = none)
      (untold : stop = false)
      (polled : (FrameSource.nextFrame l.source l.interval).value = (.failed e, source)) :
      Turned l m stop l.pollCalls
        ({ l with source, lastStatus := t, ended := some (.returned (lossReason e)) }, m)
  /-- A frame came and was submitted, and this is the answer. -/
  | fed {f : CapturedFrame} {source : σ} {answer : Except SessionError DrainReport} {pipeline : π}
      {t : Instant} {received dropped : Nat} (running : l.ended = none) (untold : stop = false)
      (polled : (FrameSource.nextFrame l.source l.interval).value = (.frame f, source))
      (submitted : (Pipeline.submit l.pipeline f).value = (.ok answer, pipeline)) :
      Turned l m stop (l.pollCalls ++ l.submitCalls f)
        ({ l with
            source, pipeline, received, dropped, lastStatus := t, ended := endAfter answer },
          m.counting f answer)

/-- How a loop breaks down in a turn: by these calls, and with this source and pipeline. -/
inductive Breaks (l : CaptureLoop σ π) (m : Metrics) (now : Instant) : List Call → σ → π → Prop
  /-- The figures for a log line overflow. -/
  | figures {x : Overflow} (overflow : m.snapshot now = .error x) :
      Breaks l m now [] l.source l.pipeline
  /-- The source breaks down. -/
  | source {source : σ}
      (polled : (FrameSource.nextFrame l.source l.interval).value = (.broken, source)) :
      Breaks l m now l.pollCalls source l.pipeline
  /-- Arithmetic overflows while a frame is submitted. -/
  | submission {f : CapturedFrame} {source : σ} {x : Overflow} {pipeline : π}
      (polled : (FrameSource.nextFrame l.source l.interval).value = (.frame f, source))
      (submitted : (Pipeline.submit l.pipeline f).value = (.error x, pipeline)) :
      Breaks l m now (l.pollCalls ++ l.submitCalls f) source pipeline

/-- The calls by which a loop that breaks down lets go of the pipeline and of the source. -/
def wreckCalls (pipeline : π) : List Call :=
  .release .pipeline :: (Pipeline.release pipeline).calls ++ [.release .source]

omit [FrameSource σ] in
/-- A loop that breaks down lets go of its pipeline and its source. -/
@[simp] theorem calls_breakDown (l : CaptureLoop σ π) :
    l.breakDown.calls = wreckCalls l.pipeline := by
  simp [breakDown, wreckCalls]

omit [FrameSource σ] [Pipeline π] in
/-- Returning is no call. -/
@[simp] theorem calls_finish (l : CaptureLoop σ π) (reason : StopReason) :
    (l.finish reason).calls = [] := by
  simp [finish]

omit [FrameSource σ] [Pipeline π] in
/-- The counters are logged unless the figures overflow, which is no call either way. -/
theorem logStatus_cases (l : CaptureLoop σ π) (m : Metrics) (now : Instant) :
    (l.logStatus m now).calls = [] ∧
      ((∃ x, m.snapshot now = .error x ∧ (l.logStatus m now).value = .error x) ∨
        ∃ t, (l.logStatus m now).value = .ok { l with lastStatus := t }) := by
  unfold logStatus
  split
  · exact ⟨rfl, .inr ⟨l.lastStatus, rfl⟩⟩
  · rcases hs : m.snapshot now with x | s
    · exact ⟨rfl, .inl ⟨x, rfl, rfl⟩⟩
    · exact ⟨by simp, .inr ⟨now, rfl⟩⟩

omit [FrameSource σ] [Pipeline π] in
/-- The answer to a frame decides whether the loop goes on. -/
theorem settle_cases (l : CaptureLoop σ π) (m : Metrics) (f : CapturedFrame)
    (answer : Except SessionError DrainReport) (running : l.ended = none) :
    (l.settle m f answer).calls = [] ∧
      ∃ dropped, (l.settle m f answer).value =
        ({ l with dropped, ended := endAfter answer }, match answer with
          | .ok report => m.recordDrain report
          | .error _ => m) := by
  rcases answer with e | report
  · cases hr : e.isRecoverable with
    | true =>
      refine ⟨by simp [settle, hr], l.dropped + 1, ?_⟩
      simp only [settle, hr, endAfter, if_true, value_bind, value_pure]
      rw [← running]
    | false =>
      cases he : e.isEndOfStream with
      | true =>
        exact ⟨by simp [settle, hr, he], l.dropped, by simp [settle, hr, he, endAfter, finish]⟩
      | false =>
        exact ⟨by simp [settle, hr, he], l.dropped, by simp [settle, hr, he, endAfter, finish]⟩
  · by_cases ho : report.outcome = .endOfStream
    · exact ⟨by simp [settle, ho], l.dropped, by simp [settle, ho, endAfter, finish]⟩
    · refine ⟨by simp [settle, ho], l.dropped, ?_⟩
      simp only [settle, ho, endAfter, if_false, value_pure]
      rw [← running]

omit [FrameSource σ] in
/-- A frame is counted and submitted: the loop breaks down on an overflow, and settles the answer
otherwise. -/
theorem take_cases (l : CaptureLoop σ π) (m : Metrics) (f : CapturedFrame)
    (running : l.ended = none) :
    (∃ x pipeline, (Pipeline.submit l.pipeline f).value = (.error x, pipeline) ∧
      (l.take m f).calls = l.submitCalls f ++ wreckCalls pipeline ∧
      (l.take m f).value.1.ended = some .broken) ∨
    ∃ answer pipeline received dropped,
      (Pipeline.submit l.pipeline f).value = (.ok answer, pipeline) ∧
      (l.take m f).calls = l.submitCalls f ∧
      (l.take m f).value =
        ({ l with pipeline, received, dropped, ended := endAfter answer },
          m.counting f answer) := by
  -- Whether the frame is mentioned in the log makes no difference.
  simp only [take]
  rcases hs : (Pipeline.submit l.pipeline f).value with ⟨x | answer, pipeline⟩
  · refine .inl ⟨x, pipeline, rfl, ?_, ?_⟩
    · split <;> simp [hs, submitCalls]
    · split <;> simp [hs, breakDown]
  · refine .inr ⟨answer, pipeline, l.received + 1, ?_⟩
    obtain ⟨hc, dropped, hv⟩ := settle_cases { l with received := l.received + 1, pipeline }
      (if f.isNew then m else m.recordRepeated) f answer running
    refine ⟨dropped, rfl, ?_, ?_⟩
    · split <;> simp [hs, submitCalls, hc]
    · split <;> simp [hs, hv, Metrics.counting]

/-- A loop that runs asks its source for a frame and deals with the answer, whenever it logged its
counters. -/
theorem poll_cases (l : CaptureLoop σ π) (m : Metrics) (t now : Instant)
    (running : l.ended = none) :
    Turned l m false ({ l with lastStatus := t }.poll m).calls
        ({ l with lastStatus := t }.poll m).value ∨
      ∃ before source pipeline, Breaks l m now before source pipeline ∧
        ({ l with lastStatus := t }.poll m).calls = before ++ wreckCalls pipeline ∧
        ({ l with lastStatus := t }.poll m).value.1.ended = some .broken := by
  rcases hp : (FrameSource.nextFrame l.source l.interval).value with ⟨f | _ | e | _, source⟩
  · -- The answer to the frame decides.
    rcases take_cases { l with lastStatus := t, source } m f running with
      ⟨x, pipeline, hs, hc, hv⟩ | ⟨answer, pipeline, received, dropped, hs, hc, hv⟩
    · refine .inr ⟨_, source, pipeline, .submission hp hs, ?_, ?_⟩
      · simp [poll, hp, hc, pollCalls, submitCalls]
      · simpa [poll, hp] using hv
    · left
      have h : Turned l m false _ ({ l with
          source, pipeline, received, dropped, lastStatus := t, ended := endAfter answer }, _) :=
        .fed running rfl hp hs
      simpa [poll, hp, hc, hv, pollCalls, submitCalls] using h
  · left
    simpa [poll, hp, pollCalls] using Turned.unfed (m := m) (t := t) running rfl hp
  · left
    have h : Turned l m false _ _ := .lost (t := t) running rfl hp
    cases e <;> simpa [poll, hp, pollCalls, finish, lossReason] using h
  · refine .inr ⟨_, source, l.pipeline, .source hp, ?_, ?_⟩
    · simp [poll, hp, pollCalls]
    · simp [poll, hp, breakDown]

/-- A turn goes one of these ways, or the loop breaks down in it. -/
theorem turn_cases (l : CaptureLoop σ π) (m : Metrics) (stop : Bool) (now : Instant) :
    Turned l m stop (l.turn m stop now).calls (l.turn m stop now).value ∨
      ∃ before source pipeline, l.ended = none ∧ stop = false ∧
        Breaks l m now before source pipeline ∧
        (l.turn m stop now).calls = before ++ wreckCalls pipeline ∧
        (l.turn m stop now).value.1.ended = some .broken := by
  cases he : l.ended with
  | some ended =>
    left
    have h : Turned l m stop [] (l, m) := .idle (by rw [he]; rfl)
    simpa [turn, he] using h
  | none =>
    cases stop with
    | true =>
      left
      simpa [turn, he, finish] using Turned.stopped (m := m) he rfl
    | false =>
      obtain ⟨hc, ⟨x, hs, hv⟩ | ⟨t, hv⟩⟩ := l.logStatus_cases m now
      · refine .inr ⟨[], l.source, l.pipeline, rfl, rfl, .figures hs, ?_, ?_⟩
        · simp [turn, he, hc, hv]
        · simp [turn, he, hv, breakDown]
      · rcases l.poll_cases m t now he with h | ⟨before, source, pipeline, hb, hcalls, hended⟩
        · left
          simpa [turn, he, hc, hv] using h
        · refine .inr ⟨before, source, pipeline, rfl, rfl, hb, ?_, ?_⟩
          · simpa [turn, he, hc, hv] using hcalls
          · simpa [turn, he, hv] using hended

end CaptureLoop

end Framecast

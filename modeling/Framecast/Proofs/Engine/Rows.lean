import Framecast.Proofs.Engine.Course
import Framecast.Proofs.Session.Refused
import Framecast.Proofs.Session.Sample

/-!
# Frames that no pitch holds

A session judges a frame by its rows before all else. One that is not usable is refused, which costs
nothing but the frame, unless it is overwide: then the size of a row overflows while the frame is
judged (`Session.submit_unusable`), and only then (`Session.submit_overflow_iff`). A capture loop
survives the refusal. The overflow breaks it down, so that it lets go of the session as it is, and
nothing is flushed and no trailer written (`frames_judged_by_rows`).
-/

namespace Framecast

open Journaled

variable {ε κ σ : Type} [Encoder ε] [Container κ] {f : CapturedFrame}

namespace Session

/-- Past the check of its rows, a frame overflows nothing but a timestamp. -/
theorem Submitted.overflow_cases {s s' : Session ε κ} {calls : List Call} {x : Overflow}
    (h : s.Submitted f calls (.error x) s') : x = .addition ∨ x = .multiplication ∧ f.Overwide := by
  generalize ha : (Except.error x : Answer) = answer at h
  cases h with
  | refused refusal =>
    cases refusal with
    | rowOverflow row =>
      obtain rfl := Except.error.inj ha
      exact .inr (CapturedFrame.isValid_error.mp row)
    | stampOverflow _ _ stamp =>
      obtain rfl := Except.error.inj ha
      exact .inl (nextStamp_error stamp)
    | _ => cases ha
  | unsent => cases ha
  | drained _ _ cycled => exact .inl (cycled.overflow_eq ha.symm)

/-- The size of a row overflows exactly if the frame is overwide. -/
theorem submit_overflow_iff (s : Session ε κ) :
    (s.submit f).value.1 = .error .multiplication ↔ f.Overwide := by
  constructor
  · intro h
    have hsubmitted := s.submit_submitted f
    rw [h] at hsubmitted
    rcases hsubmitted.overflow_cases with hadd | ⟨-, hwide⟩
    · cases hadd
    · exact hwide
  · intro hwide
    rw [s.submit_unusable hwide.unusable, value_pure]
    exact if_pos hwide

end Session

namespace CaptureLoop

section Turn

variable {π : Type} [FrameSource σ] [Pipeline π] {l : CaptureLoop σ π} {m : Metrics} {now : Instant}
  {next : σ}

/-- What a turn does in which the source delivers a frame: the figures overflow before it is asked,
or the submission does, or the frame is answered. -/
theorem turn_frame_cases (running : l.ended = none)
    (polled : (FrameSource.nextFrame l.source l.interval).value = (.frame f, next)) :
    let turned := l.turn m false now
    (∃ x, m.snapshot now = .error x ∧ turned.value.1.ended = some .broken ∧
      turned.calls = wreckCalls l.pipeline) ∨
    (∃ x pipeline, (Pipeline.submit l.pipeline f).value = (.error x, pipeline) ∧
      turned.value.1.ended = some .broken ∧
      turned.calls = l.pollCalls ++ l.submitCalls f ++ wreckCalls pipeline) ∨
    ∃ answer pipeline, (Pipeline.submit l.pipeline f).value = (.ok answer, pipeline) ∧
      turned.value.1.ended = endAfter answer ∧ turned.value.1.pipeline = pipeline := by
  intro turned
  rcases l.turn_cases m false now with hturned | ⟨before, _, _, -, -, hbreaks, hcalls, hended⟩
  · right
    right
    have hturned : Turned l m false turned.calls turned.value := hturned
    generalize turned.calls = calls at hturned
    generalize turned.value = value at hturned ⊢
    -- The loop runs, is not told to stop, and gets the frame: all other cases are void.
    cases hturned with
    | idle ended =>
      rw [running] at ended
      cases ended
    | stopped _ told => cases told
    | unfed _ _ polled' => cases polled.symm.trans polled'
    | lost _ _ polled' => cases polled.symm.trans polled'
    | fed _ _ polled' submitted =>
      cases polled.symm.trans polled'
      exact ⟨_, _, submitted, rfl, rfl⟩
  · cases hbreaks with
    | figures overflow => exact .inl ⟨_, overflow, hended, hcalls⟩
    | source polled' => cases polled.symm.trans polled'
    | submission polled' submitted =>
      cases polled.symm.trans polled'
      exact .inr (.inl ⟨_, _, submitted, hended, hcalls⟩)

end Turn

variable [FrameSource σ] {l : CaptureLoop σ (Session ε κ)} {m : Metrics} {now : Instant} {next : σ}

/-- A loop that is fed an overwide frame breaks down in that turn and lets go of the session as it
was. -/
theorem turn_overwide (running : l.ended = none)
    (polled : (FrameSource.nextFrame l.source l.interval).value = (.frame f, next))
    (overwide : f.Overwide) :
    (l.turn m false now).value.1.ended = some .broken ∧
      ∃ before, (before = [] ∨ before = l.pollCalls ++ [.submit f]) ∧
        (l.turn m false now).calls = before ++ wreckCalls l.pipeline := by
  have hsubmit : Pipeline.submit l.pipeline f = pure (f.refusal, l.pipeline) :=
    l.pipeline.submit_unusable overwide.unusable
  rw [CapturedFrame.refusal, if_pos overwide] at hsubmit
  rcases turn_frame_cases running polled with
    ⟨x, -, hended, hcalls⟩ | ⟨x, pipeline, hs, hended, hcalls⟩ | ⟨answer, pipeline, hs, -⟩
  · exact ⟨hended, [], .inl rfl, hcalls⟩
  · rw [hsubmit] at hs
    obtain ⟨-, rfl⟩ := Prod.mk.inj hs
    have hcall : l.submitCalls f = [.submit f] := by rw [submitCalls, hsubmit, calls_pure]
    rw [hcall] at hcalls
    exact ⟨hended, _, .inr rfl, hcalls⟩
  · rw [hsubmit] at hs
    cases hs

/-- A loop that is fed any other unusable frame goes on with the session as it was, unless the
figures that it logs overflow. -/
theorem turn_unusable (running : l.ended = none)
    (polled : (FrameSource.nextFrame l.source l.interval).value = (.frame f, next))
    (unusable : ¬ f.Usable) (narrow : ¬ f.Overwide) :
    ((l.turn m false now).value.1.ended = none ∧
        (l.turn m false now).value.1.pipeline = l.pipeline) ∨
      ∃ x, m.snapshot now = .error x := by
  have hsubmit : Pipeline.submit l.pipeline f = pure (f.refusal, l.pipeline) :=
    l.pipeline.submit_unusable unusable
  rw [CapturedFrame.refusal, if_neg narrow] at hsubmit
  rcases turn_frame_cases running polled with
    ⟨x, hfigures, -⟩ | ⟨x, pipeline, hs, -⟩ | ⟨answer, pipeline, hs, hended, hkept⟩
  · exact .inr ⟨x, hfigures⟩
  · rw [hsubmit] at hs
    cases hs
  · rw [hsubmit] at hs
    obtain ⟨hanswer, rfl⟩ := Prod.mk.inj hs
    obtain rfl := Except.ok.inj hanswer
    exact .inl ⟨hended, hkept⟩

end CaptureLoop

/-- A frame is valid exactly if it has a surface whose pitch holds a row, except that it is not
judged at all if it has a surface and a row takes `2^32` bytes or more. In whatever state a session
is, only such a frame overflows the size of a row when it is submitted. Every other frame that is
not valid is refused with its number; neither kind makes a call or changes the session. A capture
loop goes on after the refusal, with the session as it was, unless it overflows the figures that it
logs. The overflow breaks it down in that turn, and it only lets go of the session. -/
theorem frames_judged_by_rows [FrameSource σ] (f : CapturedFrame) :
    (f.isValid = if f.Overwide then .error .multiplication else .ok (decide f.Usable)) ∧
    (∀ s : Session ε κ,
      ((s.submit f).value.1 = .error .multiplication ↔ f.Overwide) ∧
      (¬ f.Usable → s.submit f = pure (f.refusal, s))) ∧
    ∀ (l : CaptureLoop σ (Session ε κ)) (m : Metrics) (now : Instant) (next : σ), l.ended = none →
      (FrameSource.nextFrame l.source l.interval).value = (.frame f, next) →
      let turned := l.turn m false now
      (f.Overwide → turned.value.1.ended = some .broken ∧
        ∃ before rest, (before = [] ∨ before = l.pollCalls ++ [.submit f]) ∧
          turned.calls = before ++ rest ∧ ∀ c ∈ rest, c.isRelease = true) ∧
      (¬ f.Usable → ¬ f.Overwide →
        turned.value.1.ended = none ∧ turned.value.1.pipeline = l.pipeline ∨
          ∃ x, m.snapshot now = .error x) := by
  refine ⟨f.isValid_eq, fun s => ⟨s.submit_overflow_iff, s.submit_unusable⟩, ?_⟩
  intro l m now next running polled turned
  constructor
  · intro overwide
    obtain ⟨hended, before, hbefore, hcalls⟩ := CaptureLoop.turn_overwide running polled overwide
    exact ⟨hended, before, _, hbefore, hcalls, releases_of_wreck l.pipeline⟩
  · exact CaptureLoop.turn_unusable running polled

/-- A frame whose rows take `2^32` bytes each. -/
def overwideFrame : CapturedFrame := { sampleFrame .zero with width := 1073741824 }

/-- A frame whose pitch is a byte too short. -/
def shortFrame : CapturedFrame := { sampleFrame .zero with pitch := 255, sequence := 7 }

/-- A source that delivers the frame whose rows no pitch holds. -/
def overwideSource : ScriptedSource :=
  { width := 64
    height := 48
    format := .bgra
    cues := [.polled (.frame overwideFrame)]
    stopError := none }

/-- The frame with the short pitch is refused by its number. The other one overflows, and breaks
down the loop that submits it. -/
theorem frames_judged_by_rows_sample :
    let loop := (CaptureLoop.launch ⟨overwideSource, sampleSession⟩ .zero ⟨0⟩).value
    let turned := loop.turn (.new Metrics.defaultTargetFps ⟨0⟩) false ⟨0⟩
    shortFrame.isValid = .ok false ∧
      sampleSession.submit shortFrame = pure (.ok (.error (.invalidFrame 7)), sampleSession) ∧
      overwideFrame.isValid = .error .multiplication ∧
      (sampleSession.submit overwideFrame).value.1 = .error .multiplication ∧
      turned.value.1.ended = some .broken := by
  intro loop turned
  have hoverwide : overwideFrame.Overwide := by decide
  have hshort : ¬ shortFrame.Usable := by decide
  have hpolled : (FrameSource.nextFrame loop.source loop.interval).value =
      (.frame overwideFrame, { overwideSource with cues := [] }) := rfl
  obtain ⟨hjudged, hsubmits, -⟩ :=
    @frames_judged_by_rows ScriptedEncoder MemoryContainer ScriptedSource _ _ _ shortFrame
  obtain ⟨hjudged', hsubmits', hturns⟩ :=
    @frames_judged_by_rows ScriptedEncoder MemoryContainer ScriptedSource _ _ _ overwideFrame
  obtain ⟨hbreaks, -⟩ := hturns loop (.new Metrics.defaultTargetFps ⟨0⟩) ⟨0⟩ _ rfl hpolled
  refine ⟨?_, (hsubmits sampleSession).2 hshort, ?_, (hsubmits' sampleSession).1.mpr hoverwide,
    (hbreaks hoverwide).1⟩
  · rw [hjudged, if_neg (by decide), decide_eq_false hshort]
  · rw [hjudged', if_pos hoverwide]

end Framecast

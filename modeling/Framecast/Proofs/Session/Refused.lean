import Mathlib
import Framecast.Proofs.Capture.Rows
import Framecast.Proofs.Session.Run
import Framecast.Proofs.Session.Sample

/-!
# Frames that a session refuses

A frame that is answered with an error has not been taken: nothing of the session changes but the
encoder that refused it, if it got that far (`Submitted.error_cases`). A frame that is unfit, for it
has no usable surface or not the size or the layout of the pool, does not even get there. So a run
is what it is without its unfit frames. What is answered to a frame that is not usable depends on
the frame alone (`submit_unusable`).
-/

namespace Framecast

open Journaled

/-- The frame is unfit: it has no usable surface, or another size or layout than the pool. -/
def isUnfit : Answer → Bool
  | .ok (.error (.invalidFrame _)) => true
  | .ok (.error (.encoder (.resolutionChanged _ _))) => true
  | .ok (.error (.encoder (.formatMismatch _ _))) => true
  | _ => false

/-- What a session answers to a frame that is not usable. -/
def CapturedFrame.refusal (f : CapturedFrame) : Answer :=
  if f.Overwide then .error .multiplication else .ok (.error (.invalidFrame f.sequence))

variable {ε κ : Type} [Encoder ε] [Container κ]

namespace Session

variable {s s' : Session ε κ} {f : CapturedFrame} {calls : List Call}

/-- A frame that is not usable is refused, and nothing else happens. -/
theorem submit_unusable (s : Session ε κ) (unusable : ¬ f.Usable) :
    s.submit f = pure (f.refusal, s) := by
  unfold submit CapturedFrame.refusal
  rw [CapturedFrame.isValid_of_unusable unusable]
  by_cases hwide : f.Overwide
  · rw [if_pos hwide, if_pos hwide]
  · rw [if_neg hwide, if_neg hwide]

/-- A frame that is answered with an error was refused before the encoder was asked, or the encoder
refused it. The drain of a session that accepts a frame is not terminal, so that the cycle after a
frame that was taken is not refused. -/
theorem Submitted.error_cases {e : SessionError} (h : s.Submitted f calls (.ok (.error e)) s') :
    (s.Refusal f (.ok (.error e)) ∧ calls = [] ∧ s' = s) ∨
      ∃ pts fault encoder, e = .encoder (.sendFailed fault) ∧
        calls = [.sendFrame (surface f pts) (.error fault)] ∧ s' = s.withEncoder encoder := by
  generalize hr : (Except.ok (.error e) : Answer) = answer at h
  cases h with
  | refused refusal => exact .inl ⟨refusal, rfl, rfl⟩
  | @unsent pts fault encoder accepts sent =>
    obtain rfl := Except.error.inj (Except.ok.inj hr)
    exact .inr ⟨pts, fault, encoder, rfl, rfl, rfl⟩
  | @drained pts encoder _ _ accepts sent cycled =>
    cases cycled with
    | terminated terminal =>
      have hlive : (s.sending encoder pts).drain.isTerminal = false := accepts.live
      rw [hlive] at terminal
      cases terminal
    | overflowed => cases hr
    | settled => cases hr

omit [Encoder ε] [Container κ] in
/-- A frame that the encoder was not asked to take is not answered as one that it refused. -/
theorem Refusal.not_sendFailed {e : SessionError} (h : s.Refusal f (.ok (.error e)))
    (fault : Fault) : e ≠ .encoder (.sendFailed fault) := by
  cases h with
  | _ => simp

/-- An unfit frame is submitted without a call, and leaves the session as it was. -/
theorem Submitted.unfit {answer : Answer} (h : s.Submitted f calls answer s')
    (unfit : isUnfit answer = true) : calls = [] ∧ s' = s := by
  rcases answer with x | e | report
  · cases unfit
  · rcases h.error_cases with ⟨-, hcalls, hs⟩ | ⟨_, _, _, rfl, -, -⟩
    · exact ⟨hcalls, hs⟩
    · cases unfit
  · cases unfit

/-- The frames without those that are unfit when they are submitted one after the other. -/
def fitting (s : Session ε κ) (fs : List CapturedFrame) : List CapturedFrame :=
  ((fs.zip (s.submitAll fs).value.1).filter fun x => !isUnfit x.2).map Prod.fst

/-- The first frame stays unless it is unfit, and the others are submitted after it. -/
theorem fitting_cons (s : Session ε κ) (f : CapturedFrame) (fs : List CapturedFrame) :
    s.fitting (f :: fs) =
      if isUnfit (s.submit f).value.1 then (s.submit f).value.2.fitting fs
      else f :: (s.submit f).value.2.fitting fs := by
  cases h : isUnfit (s.submit f).value.1 <;> simp [fitting, submitAll, h]

/-- A run without its unfit frames makes the same calls and ends in the same session, and the other
frames are answered the same. The induction is on the frames; an unfit one leaves the session from
which the others go on as it was. -/
theorem submitAll_fitting (s : Session ε κ) (fs : List CapturedFrame) :
    (s.submitAll (s.fitting fs)).calls = (s.submitAll fs).calls ∧
      (s.submitAll (s.fitting fs)).value =
        ((s.submitAll fs).value.1.filter fun answer => !isUnfit answer,
          (s.submitAll fs).value.2) := by
  induction fs generalizing s with
  | nil => exact ⟨rfl, rfl⟩
  | cons f fs ih =>
    obtain ⟨hcalls, hvalue⟩ := ih (s.submit f).value.2
    rw [fitting_cons]
    cases hunfit : isUnfit (s.submit f).value.1 with
    | true =>
      obtain ⟨hnone, hsame⟩ := (s.submit_submitted f).unfit hunfit
      rw [hsame] at hcalls hvalue ⊢
      simp [submitAll, hnone, hsame, hunfit, hcalls, hvalue]
    | false => simp [submitAll, hunfit, hcalls, hvalue]

/-- A frame that is answered with an error leaves everything but the encoder's own state as it was,
and that too unless the encoder was asked and refused it; no packet is asked for. A run without its
unfit frames makes the same calls, leaves the same session, with the same container, and ends the
same when it is finished. -/
theorem refused_frames_leave_no_trace (s : Session ε κ) :
    (∀ f e, (s.submit f).value.1 = .ok (.error e) →
      let s' := (s.submit f).value.2
      s' = s.withEncoder s'.bound.encoder ∧
        (∀ answer, .receive answer ∉ (s.submit f).calls) ∧
        ((∃ frame answer, .sendFrame frame answer ∈ (s.submit f).calls) ↔
          ∃ fault, e = .encoder (.sendFailed fault)) ∧
        ((∀ fault, e ≠ .encoder (.sendFailed fault)) → s' = s)) ∧
    ∀ fs now,
      let kept := s.submitAll (s.fitting fs)
      let ran := s.submitAll fs
      kept.calls = ran.calls ∧
        kept.value = (ran.value.1.filter fun answer => !isUnfit answer, ran.value.2) ∧
        (kept.value.2.finish now).value = (ran.value.2.finish now).value := by
  constructor
  · intro f e hanswer s'
    have h := s.submit_submitted f
    rw [hanswer] at h
    -- Either the encoder has not been asked, or it was handed the frame and refused it.
    rcases h.error_cases with ⟨hrefusal, hcalls, hs⟩ | ⟨pts, fault, encoder, rfl, hcalls, hs⟩
    · have hs' : s' = s := hs
      rw [hcalls, hs']
      refine ⟨rfl, ?_, ?_, fun _ => rfl⟩
      · simp
      · simp [hrefusal.not_sendFailed]
    · have hs' : s' = s.withEncoder encoder := hs
      rw [hcalls, hs']
      refine ⟨rfl, ?_, ?_, ?_⟩
      · simp
      · simp
      · intro hother
        exact absurd rfl (hother fault)
  · intro fs now kept ran
    obtain ⟨hcalls, hvalue⟩ := s.submitAll_fitting fs
    refine ⟨hcalls, hvalue, ?_⟩
    show ((s.submitAll (s.fitting fs)).value.2.finish now).value = _
    rw [hvalue]

/-- Of three frames the first has no surface. The session refuses it and is what it was, and the run
is what it is with the other two. -/
theorem refused_frames_leave_no_trace_sample :
    let unfit := { sampleFrame .zero with address := 0, sequence := 7 }
    let fs := [unfit, sampleFrame .zero, sampleFrame .zero]
    let ran := sampleSession.submitAll fs
    let kept := sampleSession.submitAll [sampleFrame .zero, sampleFrame .zero]
    (sampleSession.submit unfit).value.1 = .ok (.error (.invalidFrame 7)) ∧
      (sampleSession.submit unfit).value.2 = sampleSession ∧
      ran.value.1 =
        [.ok (.error (.invalidFrame 7)), .ok (.ok ⟨1, 6, 0, .exhausted⟩),
          .ok (.ok ⟨1, 6, 0, .exhausted⟩)] ∧
      kept.calls = ran.calls ∧ kept.value.2 = ran.value.2 ∧
      (kept.value.2.finish ⟨1⟩).value = (ran.value.2.finish ⟨1⟩).value := by
  intro unfit fs ran kept
  have hanswers : ran.value.1 =
      [.ok (.error (.invalidFrame 7)), .ok (.ok ⟨1, 6, 0, .exhausted⟩),
        .ok (.ok ⟨1, 6, 0, .exhausted⟩)] := by
    cbv
  have hfitting : sampleSession.fitting fs = [sampleFrame .zero, sampleFrame .zero] := by
    show ((fs.zip ran.value.1).filter fun x => !isUnfit x.2).map Prod.fst = _
    rw [hanswers]
    rfl
  have hrefused : (sampleSession.submit unfit).value.1 = .ok (.error (.invalidFrame 7)) := rfl
  obtain ⟨hstep, hrun⟩ := refused_frames_leave_no_trace sampleSession
  obtain ⟨-, -, -, hsame⟩ := hstep unfit _ hrefused
  obtain ⟨hcalls, hvalue, hfinish⟩ := hrun fs ⟨1⟩
  rw [hfitting] at hcalls hvalue hfinish
  have hsession : kept.value.2 = ran.value.2 := by
    show (sampleSession.submitAll [sampleFrame .zero, sampleFrame .zero]).value.2 = ran.value.2
    rw [hvalue]
  exact ⟨hrefused, hsame (by simp), hanswers, hcalls, hsession, hfinish⟩

end Session

end Framecast

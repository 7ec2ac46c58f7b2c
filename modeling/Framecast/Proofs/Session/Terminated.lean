import Framecast.Proofs.Session.Refused
import Framecast.Proofs.Session.Sample
import Framecast.Proofs.Session.Shutdown

/-!
# After the end of the stream

Once its encoder has reported the end of the stream, a session is inert: no frame makes it call
anyone, write a line or change (`submitAll_late`), and what is answered depends on the frame alone
(`CapturedFrame.lateAnswer`). A usable frame is told that the stream has ended, and no frame is told
so before. A frame that is not usable is answered as ever, for the rows of a frame are looked at
before the session is.
-/

namespace Framecast

open Journaled

/-- What a session answers to a frame after the end of the stream. -/
def CapturedFrame.lateAnswer (f : CapturedFrame) : Answer :=
  if f.Usable then .ok (.error (.mux .encoderTerminated)) else f.refusal

/-- Of the errors that are answered then, the one for usable frames tells the end of the stream, and
the other one can be recovered from. -/
theorem CapturedFrame.lateAnswer_error {f : CapturedFrame} {e : SessionError}
    (h : f.lateAnswer = .ok (.error e)) :
    (e.isEndOfStream = true ↔ f.Usable) ∧ (e.isRecoverable = true ↔ ¬ f.Usable) := by
  unfold lateAnswer at h
  by_cases husable : f.Usable
  · rw [if_pos husable] at h
    obtain rfl := Except.error.inj (Except.ok.inj h)
    simp [SessionError.isEndOfStream, SessionError.isRecoverable, husable]
  · rw [if_neg husable] at h
    unfold refusal at h
    by_cases hwide : f.Overwide
    · rw [if_pos hwide] at h
      cases h
    · rw [if_neg hwide] at h
      obtain rfl := Except.error.inj (Except.ok.inj h)
      simp [SessionError.isEndOfStream, SessionError.isRecoverable, husable]

variable {ε κ : Type} [Encoder ε] [Container κ]

namespace Session

variable {s : Session ε κ} {f : CapturedFrame}

/-- A frame that is submitted after the end of the stream is answered, and that is all. -/
theorem submit_late (terminal : s.drain.isTerminal = true) (f : CapturedFrame) :
    s.submit f = pure (f.lateAnswer, s) := by
  unfold CapturedFrame.lateAnswer
  by_cases husable : f.Usable
  · have hvalid : f.isValid = .ok true := CapturedFrame.isValid_true.mpr husable
    rw [if_pos husable]
    unfold submit
    rw [hvalid]
    simp [terminal]
  · rw [if_neg husable]
    exact s.submit_unusable husable

/-- So are all frames after it. The induction is on the frames: each of them leaves the session as
it was, and with it the end of the stream. -/
theorem submitAll_late (terminal : s.drain.isTerminal = true) (later : List CapturedFrame) :
    s.submitAll later = pure (later.map CapturedFrame.lateAnswer, s) := by
  induction later with
  | nil => rfl
  | cons f later ih =>
    rw [submitAll, s.submit_late terminal f, pure_bind]
    show (s.submitAll later >>= fun x => pure (f.lateAnswer :: x.1, x.2)) = _
    rw [ih, pure_bind]
    rfl

/-- A frame is told the end of the stream exactly if it is usable and the drain is terminal. -/
theorem submit_terminated_iff (s : Session ε κ) (f : CapturedFrame) :
    (s.submit f).value.1 = .ok (.error (.mux .encoderTerminated)) ↔
      f.Usable ∧ s.drain.isTerminal = true := by
  constructor
  · intro h
    have hsubmitted := s.submit_submitted f
    rw [h] at hsubmitted
    -- The encoder refuses with another error, so that the frame did not get there.
    rcases hsubmitted.error_cases with ⟨hrefusal, -, -⟩ | ⟨_, _, _, hother, -, -⟩
    · cases hrefusal with
      | terminated valid terminal => exact ⟨CapturedFrame.isValid_true.mp valid, terminal⟩
    · cases hother
  · rintro ⟨husable, hterminal⟩
    rw [submit_late hterminal, value_pure]
    exact if_pos husable

/-- In a session that was started, a frame is told that the stream has ended exactly if it is usable
and the encoder has reported the end of its stream after an earlier frame. From then on nothing is
called, logged or changed, whatever frames are submitted, and each of them is answered by its rows:
a usable one with the error that tells the end of the stream, any other one with its number and an
error that can be recovered from, or with an overflow if it is overwide. -/
theorem late_frames_judged_by_rows {b : SessionBuilder ε κ} {width height : UInt32}
    {format : SurfaceFormat} {start : Instant}
    (started : (b.start width height format start).value = .session s) (fs : List CapturedFrame) :
    let ran := s.submitAll fs
    (∀ f, (ran.value.2.submit f).value.1 = .ok (.error (.mux .encoderTerminated)) ↔
      f.Usable ∧ .receive .endOfStream ∈ ran.calls) ∧
    (.receive .endOfStream ∈ ran.calls → ∀ later : List CapturedFrame,
      ran.value.2.submitAll later = pure (later.map CapturedFrame.lateAnswer, ran.value.2)) ∧
    ∀ (f : CapturedFrame) (e : SessionError), f.lateAnswer = .ok (.error e) →
      (e.isEndOfStream = true ↔ f.Usable) ∧ (e.isRecoverable = true ↔ ¬ f.Usable) := by
  intro ran
  -- The session knows from its drain whether the end of the stream was reported.
  have hheard : ran.value.2.drain.isTerminal = true ↔ .receive .endOfStream ∈ ran.calls :=
    heard_submitAll started fs
  refine ⟨fun f => ?_, fun hreported later => ?_, fun f e => CapturedFrame.lateAnswer_error⟩
  · rw [submit_terminated_iff, hheard]
  · exact submitAll_late (hheard.mpr hreported) later

/-- The sample builder with an encoder that ends its stream after the first packet. -/
def earlyBuilder : SessionBuilder ScriptedEncoder MemoryContainer :=
  { sampleBuilder with
    backend :=
      { sampleBuilder.backend with
        openEncoder := fun config =>
          .ok { name := config.encoderName, cues := some [.packet 6 true, .endOfStream] } } }

/-- The session that it starts. -/
def earlySession : Session ScriptedEncoder MemoryContainer :=
  { sampleSession with
    bound :=
      { sampleSession.bound with
        encoder := { name := "h264_nvenc", cues := some [.packet 6 true, .endOfStream] } } }

/-- Of three frames after the end of the stream, only the usable one is told so. The one with a
pitch that is too short is refused by its number, with an error that can be recovered from. -/
theorem late_frames_judged_by_rows_sample :
    let short := { sampleFrame .zero with pitch := 255, sequence := 7 }
    let wide := { sampleFrame .zero with width := 1073741824 }
    let ran := earlySession.submitAll [sampleFrame .zero]
    .receive .endOfStream ∈ ran.calls ∧
      (ran.value.2.submitAll [short, wide, sampleFrame .zero]).value.1 =
        [.ok (.error (.invalidFrame 7)), .error .multiplication,
          .ok (.error (.mux .encoderTerminated))] ∧
      (ran.value.2.submitAll [short, wide, sampleFrame .zero]).calls = [] ∧
      (SessionError.invalidFrame 7).isRecoverable = true := by
  intro short wide ran
  have hstarts : (earlyBuilder.start 64 48 .bgra ⟨0⟩).value = .session earlySession := rfl
  have hended : ran.value.2.drain.isTerminal = true := by cbv
  have hreported : .receive .endOfStream ∈ ran.calls :=
    (heard_submitAll hstarts [sampleFrame .zero]).mp hended
  have hanswers : [short, wide, sampleFrame .zero].map CapturedFrame.lateAnswer =
      [.ok (.error (.invalidFrame 7)), .error .multiplication,
        .ok (.error (.mux .encoderTerminated))] := by decide
  obtain ⟨-, hlate, herrors⟩ := late_frames_judged_by_rows hstarts [sampleFrame .zero]
  have hran : ran.value.2.submitAll [short, wide, sampleFrame .zero] = _ := hlate hreported _
  have hshort : short.lateAnswer = .ok (.error (.invalidFrame 7)) := by decide
  rw [hran, hanswers]
  exact ⟨hreported, rfl, rfl, (herrors short _ hshort).2.mpr (by decide)⟩

end Session

end Framecast

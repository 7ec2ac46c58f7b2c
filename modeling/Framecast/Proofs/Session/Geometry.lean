import Framecast.Proofs.Session.Sample
import Framecast.Proofs.Session.Timestamps

/-!
# The geometry of a session

A session is started for pictures of one size and layout. The encoder is planned for that size with
the lowest bits cleared, the pool is made for the plan, and each frame is held against the pool.
`MadeFor` says what of the geometry the pool keeps; a start establishes it and a submission leaves
it alone. So a usable frame reaches the encoder exactly if it has the geometry of the start, up to
an odd column and an odd row (`frames_judged_by_geometry`).
-/

namespace Framecast

open Journaled

/-- A width and a height, the lowest bit of each cleared. -/
def clearedSize (width height : UInt32) : UInt32 × UInt32 := (width &&& ~~~1, height &&& ~~~1)

/-- An encoder tells the layouts of pictures apart. -/
theorem SurfaceFormat.pixelFormat_inj {a b : SurfaceFormat} :
    a.pixelFormat = b.pixelFormat ↔ a = b := by
  cases a <;> cases b <;> decide

/-- The frame that the encoder is handed, whether it takes it or not. -/
def Call.offered? : Call → Option SurfaceFrame
  | .sendFrame f _ => some f
  | _ => none

/-! ## What a session is made for -/

variable {ε κ : Type} [Encoder ε] [Container κ]

namespace Session

/-- The session takes pictures of this size and layout. -/
structure MadeFor (s : Session ε κ) (width height : UInt32) (format : SurfaceFormat) : Prop where
  /-- The pool has the size, with the lowest bits cleared. -/
  size : (s.bound.pool.shape.width, s.bound.pool.shape.height) = clearedSize width height
  /-- The pool has the layout. -/
  layout : s.bound.pool.shape.layout = format.pixelFormat
  /-- The end of input has not been signalled. -/
  unflushed : s.bound.flushed = false

variable {s s' : Session ε κ} {width height : UInt32} {format : SurfaceFormat} {f : CapturedFrame}
  {calls : List Call} {answer : Answer}

/-- A session is made for the pictures that it was started for. -/
theorem madeFor_of_start {b : SessionBuilder ε κ} {start : Instant}
    (started : (b.start width height format start).value = .session s) :
    s.MadeFor width height format := by
  have hs := b.start_startedBy width height format start
  rw [started] at hs
  generalize (b.start width height format start).calls = calls at hs
  cases hs with
  | @started _ _ bound _ _ _ binds _ _ =>
    -- The plan clears the size that was asked for, and the pool has the shape of the plan.
    obtain ⟨device, config, hplans, hbound⟩ := binds.bound
    obtain ⟨name, rfl⟩ := plan_of_configure hplans.configured
    have hb := b.backend.bind_boundBy device ((b.request width height).plan name) format.pixelFormat
    rw [hbound] at hb
    generalize (b.backend.bind device _ format.pixelFormat).calls = calls at hb
    cases hb with
    | bound _ _ _ =>
      refine ⟨?_, rfl, rfl⟩
      simp [EncoderConfig.poolShape, EncoderRequest.plan, SessionBuilder.request, clearedSize,
        evenFloor_eq]

/-- Submitting a frame leaves alone what a session is made for. -/
theorem MadeFor.submitted (h : s.MadeFor width height format)
    (submitted : s.Submitted f calls answer s') : s'.MadeFor width height format := by
  cases submitted with
  | refused _ => exact h
  | unsent _ _ => exact ⟨h.size, h.layout, h.unflushed⟩
  | drained _ _ _ => exact ⟨h.size, h.layout, h.unflushed⟩

/-- A session that was started is made for the same pictures whatever frames are submitted. -/
theorem MadeFor.submitAll (h : s.MadeFor width height format) (fs : List CapturedFrame) :
    (s.submitAll fs).value.2.MadeFor width height format :=
  (s.submitAll_ran fs).keeps (I := fun _ _ s' => s'.MadeFor width height format) h
    fun h submitted => h.submitted submitted

omit [Encoder ε] [Container κ] in
/-- A frame has the size of the pool if it has the size that the session is made for, up to the
lowest bits. -/
theorem MadeFor.fitsPool_iff (h : s.MadeFor width height format) :
    s.FitsPool f ↔ clearedSize f.width f.height = clearedSize width height := by
  rw [← h.size, FitsPool, clearedSize, Prod.mk.injEq, evenFloor_eq, evenFloor_eq]

omit [Encoder ε] [Container κ] in
/-- A frame has the layout of the pool if it has the one that the session is made for. -/
theorem MadeFor.layout_iff (h : s.MadeFor width height format) :
    f.format.pixelFormat = s.bound.pool.shape.layout ↔ f.format = format := by
  rw [h.layout, SurfaceFormat.pixelFormat_inj]

/-! ## Judging frames -/

/-- How a usable frame is judged by its geometry: what of it is handed to the encoder, and what is
answered. -/
inductive Judged (width height : UInt32) (format : SurfaceFormat) (f : CapturedFrame) :
    List SurfaceFrame → Answer → Prop
  /-- It has the geometry of the session, and is handed over as it is. -/
  | handed {pts : Int64} {answer : Answer}
      (size : clearedSize f.width f.height = clearedSize width height)
      (layout : f.format = format)
      (unrefused : (∀ expected actual,
          answer ≠ .ok (.error (.encoder (.resolutionChanged expected actual)))) ∧
        ∀ expected actual, answer ≠ .ok (.error (.encoder (.formatMismatch expected actual)))) :
      Judged width height format f [surface f pts] answer
  /-- It has another size. -/
  | resized (size : clearedSize f.width f.height ≠ clearedSize width height) :
      Judged width height format f []
        (.ok (.error (.encoder (.resolutionChanged (clearedSize width height)
          (f.width, f.height)))))
  /-- It has the size, and another layout. -/
  | reformatted (size : clearedSize f.width f.height = clearedSize width height)
      (layout : f.format ≠ format) :
      Judged width height format f []
        (.ok (.error (.encoder (.formatMismatch format.pixelFormat f.format.pixelFormat))))

/-- A usable frame is judged by its geometry, unless there is no stamp for it. -/
theorem MadeFor.judged (h : s.MadeFor width height format)
    (submitted : s.Submitted f calls answer s') (valid : f.isValid = .ok true)
    (live : s.drain.isTerminal = false) :
    (∃ x, nextStamp s.lastPts (s.ticks f) = .error x ∧ answer = .error x) ∨
      Judged width height format f (calls.filterMap Call.offered?) answer := by
  cases submitted with
  | refused refusal =>
    cases refusal with
    | rowOverflow row =>
      rw [valid] at row
      cases row
    | invalid invalid =>
      rw [valid] at invalid
      cases invalid
    | terminated _ terminal =>
      rw [live] at terminal
      cases terminal
    | stampOverflow _ _ stamp => exact .inl ⟨_, stamp, rfl⟩
    | flushed _ _ _ flushed =>
      rw [h.unflushed] at flushed
      cases flushed
    | resized _ _ _ _ size =>
      right
      rw [h.size]
      exact .resized (mt h.fitsPool_iff.mpr size)
    | reformatted _ _ _ _ size layout =>
      right
      rw [h.layout]
      rw [ne_eq, h.layout_iff] at layout
      exact .reformatted (h.fitsPool_iff.mp size) layout
  | unsent accepts _ =>
    exact .inr (.handed (h.fitsPool_iff.mp accepts.size) (h.layout_iff.mp accepts.layout) (by simp))
  | @drained pts _ cycle d accepts _ cycled =>
    right
    -- The cycle after the frame hands the encoder nothing more.
    have hcycle : cycle.filterMap Call.offered? = [] := by
      refine unseen_of_transfers (fun c hc => ?_) cycled.transfers
      cases c <;> first | rfl | cases hc
    rw [List.filterMap_cons, hcycle]
    refine .handed (h.fitsPool_iff.mp accepts.size) (h.layout_iff.mp accepts.layout) ?_
    rcases hd : d.result with x | e | report <;> simp [Drained.answer, hd]

/-- A stamp overflows only after `2^62` frames were taken since the start. -/
theorem encoded_of_unstamped {b : SessionBuilder ε κ} {start : Instant}
    (started : (b.start width height format start).value = .session s) {fs : List CapturedFrame}
    {x : Overflow}
    (unstamped : nextStamp (s.submitAll fs).value.2.lastPts
      ((s.submitAll fs).value.2.ticks f) = .error x) :
    x = .addition ∧ 2 ^ 62 ≤ (s.encodedOf fs).length := by
  refine ⟨nextStamp_error unstamped, ?_⟩
  by_contra hfew
  obtain ⟨stamps, hstamps⟩ := s.submitAll_stamps fs
  have hlast : s.lastPts = none := (SessionBuilder.fresh_of_start started).lastPts
  have hclimb := hstamps.climbs
  unfold ticks at hclimb
  rw [hlast, SessionBuilder.timeBase_of_start started] at hclimb
  -- The last stamp is one of those given, if there is one.
  have hroom : ∀ t, (s.submitAll fs).value.2.lastPts = some t → t.toInt < 2 ^ 63 - 1 := by
    intro t ht
    rw [hstamps.last, hlast, Option.or_none] at ht
    have hlt := lt_of_climbs hclimb (List.mem_of_getLast? ht)
    omega
  obtain ⟨pts, hpts⟩ := nextStamp_ok ((s.submitAll fs).value.2.ticks f) hroom
  rw [unstamped] at hpts
  cases hpts

/-- A usable frame that is submitted to a session which has not reached the end of its stream is
handed to the encoder exactly if it has the size that the session was started for, up to the lowest
bits, and its layout, and then with the size that it has. A frame of another size is answered with
both sizes, one of another layout with both layouts. Nothing else becomes of it, unless `2^62`
frames have used up the timestamps. A frame of exactly the geometry of the start is never answered
as a change. -/
theorem frames_judged_by_geometry {b : SessionBuilder ε κ} {start : Instant}
    (started : (b.start width height format start).value = .session s) (fs : List CapturedFrame)
    (live : (s.submitAll fs).value.2.drain.isTerminal = false) (valid : f.isValid = .ok true) :
    let submitted := (s.submitAll fs).value.2.submit f
    let handed := submitted.calls.filterMap Call.offered?
    let answer := submitted.value.1
    let SameSize := clearedSize f.width f.height = clearedSize width height
    (answer = .error .addition ∧ 2 ^ 62 ≤ (s.encodedOf fs).length ∨
      ((∃ pts, handed = [surface f pts]) ↔ SameSize ∧ f.format = format) ∧
      (¬ SameSize → handed = [] ∧
        answer = .ok (.error (.encoder (.resolutionChanged (clearedSize width height)
          (f.width, f.height))))) ∧
      (SameSize → f.format ≠ format → handed = [] ∧
        answer = .ok (.error (.encoder (.formatMismatch format.pixelFormat
          f.format.pixelFormat))))) ∧
    (f.width = width → f.height = height → f.format = format →
      (∀ expected actual,
        answer ≠ .ok (.error (.encoder (.resolutionChanged expected actual)))) ∧
      ∀ expected actual, answer ≠ .ok (.error (.encoder (.formatMismatch expected actual)))) := by
  intro submitted handed answer SameSize
  have hmade := (madeFor_of_start started).submitAll fs
  have hcases := hmade.judged ((s.submitAll fs).value.2.submit_submitted f) valid live
  rcases hcases with ⟨x, hstamp, hanswer⟩ | hjudged
  · obtain ⟨rfl, hmany⟩ := encoded_of_unstamped started hstamp
    have hanswer : answer = .error .addition := hanswer
    refine ⟨.inl ⟨hanswer, hmany⟩, ?_⟩
    simp [hanswer]
  · have hjudged : Judged width height format f handed answer := hjudged
    -- Only the judgement matters from here on, not the submission that it is about.
    clear_value handed answer
    cases hjudged with
    | handed size layout unrefused =>
      exact ⟨.inr (by simp [SameSize, size, layout]), fun _ _ _ => unrefused⟩
    | resized size =>
      refine ⟨.inr (by simp [SameSize, size]), fun hwidth hheight _ => ?_⟩
      rw [hwidth, hheight] at size
      exact absurd rfl size
    | reformatted size layout =>
      exact ⟨.inr (by simp [SameSize, size, layout]), fun _ _ hformat => absurd hformat layout⟩

/-- A session for 64 by 48 pixels is handed a frame of 65 by 49 as it is, and refuses one of 66 by
48 as another size. -/
theorem frames_judged_by_geometry_sample :
    let odd := { sampleFrame .zero with width := 65, height := 49, pitch := 260 }
    let wide := { sampleFrame .zero with width := 66, pitch := 264 }
    let s := (sampleSession.submitAll [sampleFrame .zero]).value.2
    (∃ pts, (s.submit odd).calls.filterMap Call.offered? = [surface odd pts]) ∧
      (s.submit wide).calls.filterMap Call.offered? = [] ∧
      (s.submit wide).value.1 =
        .ok (.error (.encoder (.resolutionChanged (64, 48) (66, 48)))) := by
  intro odd wide s
  have hlive : (sampleSession.submitAll [sampleFrame .zero]).value.2.drain.isTerminal = false := by
    cbv
  have hfew : ¬ 2 ^ 62 ≤ (sampleSession.encodedOf [sampleFrame .zero]).length := by cbv
  obtain ⟨⟨-, hmany⟩ | ⟨hodd, -⟩, -⟩ :=
    frames_judged_by_geometry (f := odd) sampleBuilder_starts [sampleFrame .zero] hlive rfl
  · exact absurd hmany hfew
  obtain ⟨⟨-, hmany⟩ | ⟨-, hwide, -⟩, -⟩ :=
    frames_judged_by_geometry (f := wide) sampleBuilder_starts [sampleFrame .zero] hlive rfl
  · exact absurd hmany hfew
  exact ⟨hodd.mpr ⟨by decide, rfl⟩, hwide (by decide)⟩

end Session

end Framecast

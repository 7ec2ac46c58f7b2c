import Framecast.Proofs.Engine.Figures
import Framecast.Proofs.Session.Phases
import Framecast.Proofs.Session.Sample

/-!
# The course of a capture loop

A capture loop takes one turn after the other, and in between the engine looks at the counters and
reports them (`Moment`, `course`). What the source answers over the course is what it answers when
it is asked so many times and nothing else is done with it (`FrameSource.answers`), and what the
session answers is what it answers to the frames among them, given to it one after the other.

`Steps` says what a turn does to all of that, an overflow included. So a course relays every frame
that the source delivers (`Relays`), stops at the first answer that ends the loop (`StopsShort`),
and counts what the session counts (`Counts`). Each is shown for a turn, and `course_along` puts
them together by an induction over the moments.
-/

namespace Framecast

open Journaled

/-! ## Calls of the loop -/

/-- The source is asked for a frame. -/
def Call.isAsk : Call → Bool
  | .nextFrame _ => true
  | _ => false

/-- The frame that is submitted. -/
def Call.submitted? : Call → Option CapturedFrame
  | .submit f => some f
  | _ => none

/-- The loop makes neither of these calls by itself: they are made on its behalf, or let go. -/
def Unspoken (calls : List Call) : Prop :=
  ∀ c ∈ calls, c.isAsk = false ∧ c.submitted? = none

namespace Unspoken

variable {calls more : List Call}

/-- Nobody is asked. -/
theorem unasked (h : Unspoken calls) : calls.filter Call.isAsk = [] := by
  rw [List.filter_eq_nil_iff]
  intro c hc
  rw [(h c hc).1]
  exact Bool.false_ne_true

/-- Nothing is submitted. -/
theorem unsubmitted (h : Unspoken calls) : calls.filterMap Call.submitted? = [] :=
  List.filterMap_eq_nil_iff.mpr fun c hc => (h c hc).2

end Unspoken

/-- Letting go is not spoken by a loop. -/
theorem unspoken_of_releases {calls : List Call} (h : ∀ c ∈ calls, c.isRelease = true) :
    Unspoken calls := by
  intro c hc
  have hrelease := h c hc
  cases c <;> first | exact ⟨rfl, rfl⟩ | cases hrelease

/-- Letting go needs no counting. -/
theorem uncounted_of_releases {calls : List Call} (h : ∀ c ∈ calls, c.isRelease = true) :
    Uncounted calls := by
  intro c hc
  have hrelease := h c hc
  cases c <;> first | rfl | cases hrelease

variable {ε κ σ : Type} [Encoder ε] [Container κ]

/-- Submitting a frame to a session is one call of the loop; what the session does then is none. -/
theorem Session.Submitted.unspoken {s s' : Session ε κ} {f : CapturedFrame} {calls : List Call}
    {answer : Answer} (h : s.Submitted f calls answer s') : Unspoken calls := by
  cases h with
  | refused => exact fun c hc => absurd hc List.not_mem_nil
  | unsent => exact List.forall_mem_singleton.mpr ⟨rfl, rfl⟩
  | drained _ _ cycled =>
    refine List.forall_mem_cons.mpr ⟨⟨rfl, rfl⟩, fun c hc => ?_⟩
    have hmoves := cycled.transfers c hc
    cases c <;> first | exact ⟨rfl, rfl⟩ | cases hmoves

/-- A loop that breaks down with a session only lets go. -/
theorem releases_of_wreck (s : Session ε κ) :
    ∀ c ∈ CaptureLoop.wreckCalls s, c.isRelease = true := by
  have hsession : (Pipeline.release s).calls = .release .container :: s.bound.releaseCalls :=
    s.calls_release
  simp [CaptureLoop.wreckCalls, hsession, BoundEncoder.releaseCalls, Call.isRelease]

/-! ## Answers -/

/-- The frame that a source delivers, if it does. -/
def Polled.frame? : Polled → Option CapturedFrame
  | .frame f => some f
  | _ => none

/-- The frames among the answers of a source, in order. -/
def delivered (polled : List Polled) : List CapturedFrame := polled.filterMap Polled.frame?

/-- An answer without a frame delivers nothing. -/
theorem delivered_frameless (polled : List Polled) {p : Polled} (frameless : p.frame? = none) :
    delivered (polled ++ [p]) = delivered polled := by
  unfold delivered
  rw [List.filterMap_append, List.filterMap_cons_none frameless, List.filterMap_nil,
    List.append_nil]

/-- A frame is delivered after those before it. -/
theorem delivered_frame (polled : List Polled) (f : CapturedFrame) :
    delivered (polled ++ [Polled.frame f]) = delivered polled ++ [f] := by
  unfold delivered
  rw [List.filterMap_append]
  rfl

/-- How the answer of a source ends the loop, if it does. -/
def Polled.end? : Polled → Option LoopEnd
  | .frame _ => none
  | .nothing => none
  | .failed e => some (.returned (CaptureLoop.lossReason e))
  | .broken => some .broken

/-- How the answer of a session ends the loop, if it does. -/
def answerEnd : Answer → Option LoopEnd
  | .error _ => some .broken
  | .ok answer => CaptureLoop.endAfter answer

/-- The cycle after the frame ended because the encoder wants another one. -/
def isExhausted : Answer → Bool
  | .ok (.ok report) => report.outcome = .exhausted
  | _ => false

/-- What a source answers when it is asked so many times, and what becomes of it. -/
def FrameSource.answers [FrameSource σ] (source : σ) (timeout : Duration) : Nat → List Polled × σ
  | 0 => ([], source)
  | n + 1 =>
    let (polled, source) := answers source timeout n
    let (p, source) := (FrameSource.nextFrame source timeout).value
    (polled ++ [p], source)

/-- Submitting one more frame adds its answer. -/
theorem Session.submitAll_concat (s : Session ε κ) (fs : List CapturedFrame) (f : CapturedFrame) :
    (s.submitAll (fs ++ [f])).value =
      ((s.submitAll fs).value.1 ++ [((s.submitAll fs).value.2.submit f).value.1],
        ((s.submitAll fs).value.2.submit f).value.2) := by
  induction fs generalizing s with
  | nil => simp [submitAll]
  | cons g fs ih => simp [submitAll, ih]

/-- The counters after a frame was submitted, whatever is answered. -/
def Metrics.after (m : Metrics) (f : CapturedFrame) : Answer → Metrics
  | .error _ => if f.isNew then m else m.recordRepeated
  | .ok answer => m.counting f answer

/-! ## Moments -/

/-- What goes on with a capture loop and its counters. -/
inductive Moment
  /-- The loop takes a turn, told to stop or not. -/
  | turn (stop : Bool) (now : Instant)
  /-- The engine looks what the figures warn of. -/
  | examined (figures : SessionStats) (now : Instant)
  /-- The engine has reported the figures. -/
  | reported (now : Instant)

namespace CaptureLoop

section Course

variable {π : Type} [FrameSource σ] [Pipeline π]

/-- A moment in the course of a loop. -/
def undergo (x : CaptureLoop σ π × Metrics) : Moment → Journaled (CaptureLoop σ π × Metrics)
  | .turn stop now => x.1.turn x.2 stop now
  | .examined figures now => return (x.1, (x.2.checkWarnings figures now).2)
  | .reported now => return (x.1, x.2.markReported now)

/-- The course of a loop: one moment after the other. -/
def course (l : CaptureLoop σ π) (m : Metrics) (moments : List Moment) :
    Journaled (CaptureLoop σ π × Metrics) :=
  moments.foldlM undergo (l, m)

/-- A course goes on from where it is. -/
theorem course_append (l : CaptureLoop σ π) (m : Metrics) (before more : List Moment) :
    l.course m (before ++ more) = l.course m before >>= fun x => x.1.course x.2 more :=
  List.foldlM_append

/-- The last moment of a course. -/
theorem course_concat (l : CaptureLoop σ π) (m : Metrics) (before : List Moment) (moment : Moment) :
    l.course m (before ++ [moment]) = l.course m before >>= fun x => undergo x moment := by
  rw [course_append]
  simp only [course, List.foldlM_cons, List.foldlM_nil, bind_pure]

/-- A loop that has ended does nothing more. The counters may still be looked at. -/
theorem course_of_ended (l : CaptureLoop σ π) (m : Metrics) (ended : l.ended.isSome = true)
    (moments : List Moment) :
    (l.course m moments).calls = [] ∧ (l.course m moments).value.1 = l := by
  induction moments using List.reverseRecOn with
  | nil => exact ⟨rfl, rfl⟩
  | append_singleton before moment ih =>
    obtain ⟨hcalls, hvalue⟩ := ih
    rw [course_concat, calls_bind, value_bind, hcalls]
    cases moment with
    | turn stop now => simp [undergo, turn, hvalue, ended]
    | examined figures now => exact ⟨rfl, hvalue⟩
    | reported now => exact ⟨rfl, hvalue⟩

end Course

/-! ## A turn -/

variable [QuietSource σ]

/-- What a turn of the loop of a session does: what the source answers if it is asked, these calls,
this loop and these counters. -/
inductive Steps (l : CaptureLoop σ (Session ε κ)) (m : Metrics) :
    Option Polled → List Call → CaptureLoop σ (Session ε κ) × Metrics → Prop
  /-- The loop has ended or ends now, and asks for nothing. -/
  | unasked {ended : LoopEnd} {rest : List Call} (kept : ∀ x, l.ended = some x → x = ended)
      (releases : ∀ c ∈ rest, c.isRelease = true) :
      Steps l m none rest ({ l with ended := some ended }, m)
  /-- The source has no frame. -/
  | unfed {p : Polled} {source : σ} {t : Instant} {rest : List Call} (running : l.ended = none)
      (polled : (FrameSource.nextFrame l.source l.interval).value = (p, source))
      (frameless : p.frame? = none) (releases : ∀ c ∈ rest, c.isRelease = true) :
      Steps l m (some p) (.nextFrame l.interval :: rest)
        ({ l with source, lastStatus := t, ended := p.end? }, m)
  /-- A frame comes and is submitted. -/
  | fed {f : CapturedFrame} {source : σ} {answer : Answer} {s : Session ε κ} {t : Instant}
      {received dropped : Nat} {rest : List Call} (running : l.ended = none)
      (polled : (FrameSource.nextFrame l.source l.interval).value = (.frame f, source))
      (submitted : (l.pipeline.submit f).value = (answer, s))
      (releases : ∀ c ∈ rest, c.isRelease = true) :
      Steps l m (some (.frame f))
        (.nextFrame l.interval :: .submit f :: (l.pipeline.submit f).calls ++ rest)
        ({ l with
            source, pipeline := s, received, dropped, lastStatus := t, ended := answerEnd answer },
          m.after f answer)

variable {l : CaptureLoop σ (Session ε κ)} {m : Metrics}

omit [QuietSource σ] in
/-- A loop that runs counts a frame and submits it, and breaks down if that overflows. -/
theorem take_submits [FrameSource σ] (f : CapturedFrame) (running : l.ended = none)
    {answer : Answer} {s : Session ε κ} (submitted : (l.pipeline.submit f).value = (answer, s)) :
    ∃ received dropped rest, (∀ c ∈ rest, c.isRelease = true) ∧
      (l.take m f).calls = .submit f :: (l.pipeline.submit f).calls ++ rest ∧
      (l.take m f).value =
        ({ l with pipeline := s, received, dropped, ended := answerEnd answer },
          m.after f answer) := by
  have hpipeline : (Pipeline.submit l.pipeline f).value = (answer, s) := submitted
  rcases answer with x | answer
  · -- Whether the frame is mentioned in the log makes no difference.
    refine ⟨l.received + 1, l.dropped, wreckCalls s, releases_of_wreck s, ?_, ?_⟩
    · simp only [take]
      split <;> simp [hpipeline] <;> rfl
    · simp only [take]
      split <;> simp [hpipeline, breakDown, answerEnd, Metrics.after]
  · rcases l.take_cases m f running with
      ⟨x, s', hs, -, -⟩ | ⟨answer', s', received, dropped, hs, hc, hv⟩
    · cases hpipeline.symm.trans hs
    · obtain ⟨hanswer, rfl⟩ := Prod.mk.inj (hpipeline.symm.trans hs)
      obtain rfl := Except.ok.inj hanswer
      refine ⟨received, dropped, [], by simp, ?_, hv⟩
      rw [hc, List.append_nil]
      rfl

/-- A loop that runs asks its source, and deals with the answer. -/
theorem poll_steps (l : CaptureLoop σ (Session ε κ)) (m : Metrics) (t : Instant)
    (running : l.ended = none) :
    ∃ p, Steps l m (some p) ({ l with lastStatus := t }.poll m).calls
      ({ l with lastStatus := t }.poll m).value := by
  rcases hp : (FrameSource.nextFrame l.source l.interval).value with ⟨p, source⟩
  refine ⟨p, ?_⟩
  cases p with
  | frame f =>
    rcases hs : (l.pipeline.submit f).value with ⟨answer, s⟩
    obtain ⟨received, dropped, rest, hrest, hc, hv⟩ :=
      take_submits (l := { l with lastStatus := t, source }) (m := m) f running hs
    have h : Steps l m (some (.frame f)) _ ({ l with
        source, pipeline := s, received, dropped, lastStatus := t, ended := answerEnd answer },
          m.after f answer) :=
      .fed running hp hs hrest
    simpa [poll, hp, hc, hv] using h
  | nothing =>
    have h : Steps l m _ [.nextFrame l.interval] _ := .unfed (t := t) running hp rfl (by simp)
    simpa [poll, hp, Polled.end?, running] using h
  | failed e =>
    have h : Steps l m _ [.nextFrame l.interval] _ := .unfed (t := t) running hp rfl (by simp)
    cases e <;> simpa [poll, hp, finish, Polled.end?, lossReason] using h
  | broken =>
    have h : Steps l m _ _ _ := .unfed (t := t) running hp rfl (releases_of_wreck l.pipeline)
    simpa [poll, hp, breakDown, wreckCalls, Polled.end?] using h

/-- A turn goes one of these ways. -/
theorem turn_steps (l : CaptureLoop σ (Session ε κ)) (m : Metrics) (stop : Bool) (now : Instant) :
    ∃ p, Steps l m p (l.turn m stop now).calls (l.turn m stop now).value := by
  cases he : l.ended with
  | some ended =>
    refine ⟨none, ?_⟩
    have h : Steps l m none [] ({ l with ended := some ended }, m) :=
      .unasked (fun x hx => Option.some.inj (hx.symm.trans he)) (by simp)
    have hsame : { l with ended := some ended } = l := by rw [← he]
    rw [hsame] at h
    simpa [turn, he] using h
  | none =>
    have hrunning : ∀ ended x, l.ended = some x → x = ended := by simp [he]
    cases stop with
    | true =>
      refine ⟨none, ?_⟩
      have h : Steps l m none [] _ := .unasked (hrunning (.returned .userRequested)) (by simp)
      simpa [turn, he, finish] using h
    | false =>
      obtain ⟨hc, ⟨x, -, hv⟩ | ⟨t, hv⟩⟩ := l.logStatus_cases m now
      · refine ⟨none, ?_⟩
        have h : Steps l m none _ _ := .unasked (hrunning .broken) (releases_of_wreck l.pipeline)
        simpa [turn, he, hc, hv, breakDown, wreckCalls] using h
      · obtain ⟨p, hp⟩ := l.poll_steps m t he
        exact ⟨some p, by simpa [turn, he, hc, hv] using hp⟩

end CaptureLoop

/-! ## What a course keeps -/

/-- What a session answers to the frames among these answers of a source, given to it one after the
other. -/
def Session.answersTo (s : Session ε κ) (polled : List Polled) : List Answer :=
  (s.submitAll (delivered polled)).value.1

/-- An answer without a frame is answered by nothing. -/
theorem Session.answersTo_frameless (s : Session ε κ) (polled : List Polled) {p : Polled}
    (frameless : p.frame? = none) : s.answersTo (polled ++ [p]) = s.answersTo polled := by
  unfold answersTo
  rw [delivered_frameless polled frameless]

/-- A frame is answered. -/
theorem Session.answersTo_frame (s : Session ε κ) (polled : List Polled) (f : CapturedFrame) :
    s.answersTo (polled ++ [Polled.frame f]) = s.answersTo polled ++
      [((s.submitAll (delivered polled)).value.2.submit f).value.1] := by
  unfold answersTo
  rw [delivered_frame, submitAll_concat]

variable [QuietSource σ] {s : Session ε κ} {source : σ} {interval : Duration}
  {calls more : List Call} {polled : List Polled} {p : Option Polled}
  {l l' : CaptureLoop σ (Session ε κ)} {m m' : Metrics}

/-- Asking a source once more adds an answer. -/
theorem answers_succ {n : Nat} {now next : σ} {p : Polled}
    (before : FrameSource.answers source interval n = (polled, now))
    (asked : (FrameSource.nextFrame now interval).value = (p, next)) :
    FrameSource.answers source interval (n + 1) = (polled ++ [p], next) := by
  simp only [FrameSource.answers, before, asked]

/-- By these calls the source was asked for these answers, and each frame among them was submitted,
once and in order, to the session that began as `s`. -/
structure Relays (s : Session ε κ) (source : σ) (interval : Duration) (calls : List Call)
    (polled : List Polled) (l : CaptureLoop σ (Session ε κ)) : Prop where
  /-- The source is always given the same time. -/
  interval_eq : l.interval = interval
  /-- It was asked for these answers, and nothing else was done with it. -/
  source_eq : FrameSource.answers source interval polled.length = (polled, l.source)
  /-- It was asked once for each. -/
  asked : (calls.filter Call.isAsk).length = polled.length
  /-- The frames are submitted. -/
  submitted : calls.filterMap Call.submitted? = delivered polled
  /-- The session was given these frames, and nothing else was done with it. -/
  pipeline : l.pipeline = (s.submitAll (delivered polled)).value.2

/-- A turn relays the frame that comes, if one does. -/
theorem Relays.steps (h : Relays s source interval calls polled l)
    (steps : l.Steps m p more (l', m')) :
    Relays s source interval (calls ++ more) (polled ++ p.toList) l' := by
  cases steps with
  | @unasked ended rest kept releases =>
    have hunspoken := unspoken_of_releases releases
    rw [Option.toList_none, List.append_nil]
    refine ⟨h.interval_eq, h.source_eq, ?_, ?_, h.pipeline⟩
    · rw [List.filter_append, hunspoken.unasked, List.append_nil]
      exact h.asked
    · rw [List.filterMap_append, hunspoken.unsubmitted, List.append_nil]
      exact h.submitted
  -- The source was asked, and its answer is no frame: nothing is submitted.
  | @unfed p next t rest running hpolled frameless releases =>
    have hunspoken := unspoken_of_releases releases
    have hframes := delivered_frameless polled frameless
    rw [Option.toList_some]
    refine ⟨h.interval_eq, ?_, ?_, ?_, ?_⟩
    · rw [List.length_append]
      rw [h.interval_eq] at hpolled
      exact answers_succ h.source_eq hpolled
    · simp [List.filter_append, List.filter_cons, Call.isAsk, hunspoken.unasked, h.asked]
    · rw [hframes, List.filterMap_append, List.filterMap_cons_none rfl, hunspoken.unsubmitted,
        List.append_nil]
      exact h.submitted
    · rw [hframes]
      exact h.pipeline
  -- The frame goes to the session at once, as the last one so far.
  | @fed f next answer s' t received dropped rest running hpolled submitted releases =>
    have hsub := l.pipeline.submit_submitted f
    have hsession := hsub.unspoken
    have hrest := unspoken_of_releases releases
    rw [Option.toList_some]
    refine ⟨h.interval_eq, ?_, ?_, ?_, ?_⟩
    · rw [List.length_append]
      rw [h.interval_eq] at hpolled
      exact answers_succ h.source_eq hpolled
    · simp [List.filter_append, List.filter_cons, Call.isAsk, hsession.unasked, hrest.unasked,
        h.asked]
    · simp [delivered_frame, List.filterMap_append, List.filterMap_cons, Call.submitted?,
        hsession.unsubmitted, hrest.unsubmitted, h.submitted]
    · rw [delivered_frame, Session.submitAll_concat, ← h.pipeline, submitted]

/-- Nothing was asked and nothing answered after what ends a loop, and an overflow breaks it. -/
structure StopsShort (polled : List Polled) (answers : List Answer) (ended : Option LoopEnd) :
    Prop where
  /-- A loop that runs has met nothing that ends it. -/
  running : ended = none →
    (∀ p ∈ polled, p.end? = none) ∧ ∀ answer ∈ answers, answerEnd answer = none
  /-- What ends the loop is the last answer of the source. -/
  polled_last : ∀ p ∈ polled.dropLast, p.end? = none
  /-- What ends the loop is the last answer of the session. -/
  answers_last : ∀ answer ∈ answers.dropLast, answerEnd answer = none
  /-- Unless it has broken down, no frame has caused an overflow. -/
  unbroken : ended ≠ some .broken → ∀ x, .error x ∉ answers

/-- A loop that runs has met no overflow. -/
theorem StopsShort.fits {answers : List Answer} (h : StopsShort polled answers none)
    (x : Overflow) : .error x ∉ answers := by
  intro hmem
  have hnone := (h.running rfl).2 _ hmem
  cases hnone

/-- A turn goes on only if nothing has ended the loop. -/
theorem StopsShort.steps (h : StopsShort polled (s.answersTo polled) l.ended)
    (pipeline : l.pipeline = (s.submitAll (delivered polled)).value.2)
    (steps : l.Steps m p more (l', m')) :
    StopsShort (polled ++ p.toList) (s.answersTo (polled ++ p.toList)) l'.ended := by
  cases steps with
  | @unasked ended rest kept releases =>
    rw [Option.toList_none, List.append_nil]
    refine ⟨nofun, h.polled_last, h.answers_last, fun unbroken => ?_⟩
    cases he : l.ended with
    | none =>
      rw [he] at h
      exact h.fits
    | some x =>
      obtain rfl := kept x he
      rw [he] at h
      exact h.unbroken unbroken
  | @unfed p next t rest running hpolled frameless releases =>
    rw [running] at h
    obtain ⟨hcalm, hanswers⟩ := h.running rfl
    rw [Option.toList_some, s.answersTo_frameless polled frameless]
    refine ⟨fun hnone => ⟨?_, hanswers⟩, ?_, h.answers_last, fun _ => h.fits⟩
    · exact List.forall_mem_append.mpr ⟨hcalm, List.forall_mem_singleton.mpr hnone⟩
    · rw [List.dropLast_concat]
      exact hcalm
  | @fed f next answer s' t received dropped rest running hpolled submitted releases =>
    rw [running] at h
    obtain ⟨hcalm, hanswers⟩ := h.running rfl
    rw [Option.toList_some, s.answersTo_frame polled f, ← pipeline, submitted]
    refine ⟨fun hnone => ⟨?_, ?_⟩, ?_, ?_, fun unbroken x => ?_⟩
    · exact List.forall_mem_append.mpr ⟨hcalm, List.forall_mem_singleton.mpr rfl⟩
    · exact List.forall_mem_append.mpr ⟨hanswers, List.forall_mem_singleton.mpr hnone⟩
    · rw [List.dropLast_concat]
      exact hcalm
    · rw [List.dropLast_concat]
      exact hanswers
    · rw [List.mem_append, List.mem_singleton, not_or]
      refine ⟨h.fits x, ?_⟩
      rintro rfl
      exact unbroken rfl

/-- A repeated frame is counted, whatever is answered. -/
theorem Metrics.repeatedFrames_after (m : Metrics) (f : CapturedFrame) (answer : Answer) :
    (m.after f answer).repeatedFrames =
      m.repeatedFrames + .ofNat ([f].countP fun f => !f.isNew) := by
  have hfirst : (if f.isNew then m else m.recordRepeated).repeatedFrames =
      m.repeatedFrames + .ofNat ([f].countP fun f => !f.isNew) := by
    cases hnew : f.isNew <;> simp [hnew, recordRepeated]
  rcases answer with x | e | ⟨written, bytes, failures, outcome⟩
  · exact hfirst
  · exact hfirst
  · cases outcome <;> exact hfirst

/-- A cycle that ends because the encoder wants another frame is counted. -/
theorem Metrics.flowControlStops_after (m : Metrics) (f : CapturedFrame) (answer : Answer) :
    (m.after f answer).flowControlStops =
      m.flowControlStops + .ofNat ([answer].countP isExhausted) := by
  have hfirst : (if f.isNew then m else m.recordRepeated).flowControlStops =
      m.flowControlStops := by
    cases f.isNew <;> rfl
  have hnone : m.flowControlStops = m.flowControlStops + .ofNat 0 := by simp
  rcases answer with x | e | ⟨written, bytes, failures, outcome⟩
  · exact hfirst.trans hnone
  · exact hfirst.trans hnone
  · cases outcome with
    | exhausted => exact congrArg (· + 1) hfirst
    | endOfStream => exact hfirst.trans hnone
    | stalled fault => exact hfirst.trans hnone

/-- What the loop and the session have counted is what was delivered and answered, and what these
calls did. -/
structure Counts (calls : List Call) (polled : List Polled) (answers : List Answer)
    (l : CaptureLoop σ (Session ε κ)) (m : Metrics) : Prop where
  /-- Repeated frames are counted. -/
  repeated : m.repeatedFrames = .ofNat ((delivered polled).countP fun f => !f.isNew)
  /-- Cycles that ended for want of a frame are counted. -/
  stops : m.flowControlStops = .ofNat (answers.countP isExhausted)
  /-- The rest is counted on both sides. -/
  accounted : (∀ x, .error x ∉ answers) → l.pipeline.Accounted calls ∧ m.Tallies calls

omit [Encoder ε] [Container κ] [QuietSource σ] in
/-- Counters that are not touched are right. -/
theorem Counts.congr {answers : List Answer} (h : Counts calls polled answers l m)
    (hr : m'.repeatedFrames = m.repeatedFrames) (ho : m'.flowControlStops = m.flowControlStops)
    (hs : m'.framesSubmitted = m.framesSubmitted) (hp : m'.packetsWritten = m.packetsWritten)
    (hb : m'.bytesWritten = m.bytesWritten) (hf : m'.writeFailures = m.writeFailures) :
    Counts calls polled answers l m' :=
  ⟨hr.trans h.repeated, ho.trans h.stops, fun fits =>
    ⟨(h.accounted fits).1, (h.accounted fits).2.congr hs hp hb hf⟩⟩

/-- A turn counts what it does. -/
theorem Counts.steps (h : Counts calls polled (s.answersTo polled) l m)
    (pipeline : l.pipeline = (s.submitAll (delivered polled)).value.2)
    (steps : l.Steps m p more (l', m')) :
    Counts (calls ++ more) (polled ++ p.toList) (s.answersTo (polled ++ p.toList)) l' m' := by
  cases steps with
  | @unasked ended rest kept releases =>
    have huncounted := uncounted_of_releases releases
    rw [Option.toList_none, List.append_nil]
    refine ⟨h.repeated, h.stops, fun fits => ?_⟩
    obtain ⟨haccounted, htallies⟩ := h.accounted fits
    exact ⟨haccounted.uncounted huncounted, htallies.uncounted huncounted⟩
  | @unfed p next t rest running hpolled frameless releases =>
    have huncounted : Uncounted (.nextFrame l.interval :: rest) :=
      .cons rfl (uncounted_of_releases releases)
    rw [Option.toList_some, s.answersTo_frameless polled frameless]
    refine ⟨?_, h.stops, fun fits => ?_⟩
    · rw [delivered_frameless polled frameless]
      exact h.repeated
    · obtain ⟨haccounted, htallies⟩ := h.accounted fits
      exact ⟨haccounted.uncounted huncounted, htallies.uncounted huncounted⟩
  | @fed f next answer s' t received dropped rest running hpolled submitted releases =>
    rw [Option.toList_some, s.answersTo_frame polled f, ← pipeline, submitted]
    refine ⟨?_, ?_, fun fits => ?_⟩
    · rw [delivered_frame, List.countP_append, UInt64.ofNat_add, m.repeatedFrames_after,
        h.repeated]
    · rw [List.countP_append, UInt64.ofNat_add, m.flowControlStops_after, h.stops]
    · have hbefore : Uncounted [.nextFrame l.interval, .submit f] := .cons rfl (.cons rfl (by
        simp [Uncounted]))
      have hafter := uncounted_of_releases releases
      -- The session counts its own calls; those around them count for nothing.
      have hsplit : calls ++ (.nextFrame l.interval :: .submit f ::
          (l.pipeline.submit f).calls ++ rest) =
          calls ++ [.nextFrame l.interval, .submit f] ++ (l.pipeline.submit f).calls ++ rest := by
        simp
      rw [hsplit]
      obtain ⟨haccounted, htallies⟩ := h.accounted fun x hx => fits x (List.mem_append_left _ hx)
      have hsub := l.pipeline.submit_submitted f
      rw [submitted] at hsub
      rcases answer with x | answer
      · -- The counters are not right after an overflow, which is excluded.
        exact absurd (List.mem_append_right _ (List.mem_singleton.mpr rfl)) (fits x)
      · refine ⟨?_, ?_⟩
        · exact ((haccounted.uncounted hbefore).submitted hsub (by simp)).uncounted hafter
        · exact ((htallies.uncounted hbefore).counting f hsub.reported).uncounted hafter

/-! ## A whole course -/

/-- What a course keeps, from a loop that has just begun. -/
structure Along (s : Session ε κ) (source : σ) (interval : Duration) (calls : List Call)
    (x : CaptureLoop σ (Session ε κ) × Metrics) (polled : List Polled) : Prop where
  /-- Every frame is submitted. -/
  relays : Relays s source interval calls polled x.1
  /-- Nothing comes after what ends the loop. -/
  stops : StopsShort polled (s.answersTo polled) x.1.ended
  /-- The counters are right. -/
  counts : Counts calls polled (s.answersTo polled) x.1 x.2

/-- The course of a loop that begins with a session relays, stops short and counts. The induction is
on the moments; only a turn does anything. -/
theorem course_along (begins : Along s source interval [] (l, m) []) (moments : List Moment) :
    ∃ polled, Along s source interval (l.course m moments).calls (l.course m moments).value
      polled := by
  induction moments using List.reverseRecOn with
  | nil => exact ⟨[], begins⟩
  | append_singleton before moment ih =>
    obtain ⟨polled, h⟩ := ih
    rw [CaptureLoop.course_concat, calls_bind, value_bind]
    generalize (l.course m before).value = x at h ⊢
    cases moment with
    | turn stop now =>
      obtain ⟨p, hsteps⟩ := x.1.turn_steps x.2 stop now
      exact ⟨polled ++ p.toList, h.relays.steps hsteps, h.stops.steps h.relays.pipeline hsteps,
        h.counts.steps h.relays.pipeline hsteps⟩
    | examined figures now =>
      rw [CaptureLoop.undergo, calls_pure, List.append_nil]
      exact ⟨polled, h.relays, h.stops, h.counts.congr rfl rfl rfl rfl rfl rfl⟩
    | reported now =>
      rw [CaptureLoop.undergo, calls_pure, List.append_nil]
      exact ⟨polled, h.relays, h.stops, h.counts.congr rfl rfl rfl rfl rfl rfl⟩

omit [Encoder ε] [Container κ] in
/-- A loop that is told to stop calls nothing, and returns unless it has ended before. -/
theorem CaptureLoop.turn_told {π : Type} [Pipeline π] (l : CaptureLoop σ π) (m : Metrics)
    (now : Instant) :
    (l.turn m true now).calls = [] ∧
      (l.turn m true now).value.1.ended = l.ended.or (some (.returned .userRequested)) := by
  cases he : l.ended <;> simp [turn, he, finish]

/-- Nothing is called after a loop has ended, or after it was told to stop. -/
theorem CaptureLoop.calls_course_over {before after : List Moment}
    (finished : (l.course m before).value.1.ended.isSome = true ∨
      ∃ now rest, after = .turn true now :: rest) :
    (l.course m (before ++ after)).calls = (l.course m before).calls := by
  have hnothing : ∀ x : CaptureLoop σ (Session ε κ) × Metrics, x.1.ended.isSome = true →
      ∀ moments, (x.1.course x.2 moments).calls = [] :=
    fun x ended moments => (x.1.course_of_ended x.2 ended moments).1
  rw [course_append, calls_bind]
  generalize (l.course m before).value = x at finished ⊢
  rcases finished with hended | ⟨now, rest, rfl⟩
  · rw [hnothing x hended, List.append_nil]
  · obtain ⟨hcalls, hended⟩ := x.1.turn_told x.2 now
    have hrest := hnothing (x.1.turn x.2 true now).value (by rw [hended, Option.isSome_or]; simp)
      rest
    have hcourse : x.1.course x.2 (.turn true now :: rest) =
        x.1.turn x.2 true now >>= fun y => y.1.course y.2 rest := rfl
    rw [hcourse, calls_bind, hcalls, hrest, List.append_nil, List.append_nil]

/-- The loop of a session that has just started is at the beginning of its course. -/
theorem along_of_start {b : SessionBuilder ε κ} {width height : UInt32} {format : SurfaceFormat}
    {start : Instant} (started : (b.start width height format start).value = .session s)
    (source : σ) (interval : Duration) (fps : Rate) (now : Instant) :
    Along s source interval []
      ((CaptureLoop.launch ⟨source, s⟩ interval now).value, (Metrics.new fps now).start now)
      [] := by
  refine ⟨⟨rfl, rfl, rfl, rfl, rfl⟩, ⟨?_, by simp, ?_, ?_⟩, ⟨rfl, rfl, fun _ => ⟨?_, ?_⟩⟩⟩
  · exact fun _ => ⟨by simp, by simp [Session.answersTo, delivered, Session.submitAll]⟩
  · simp [Session.answersTo, delivered, Session.submitAll]
  · simp [Session.answersTo, delivered, Session.submitAll]
  · exact .start started
  · exact ⟨rfl, rfl, rfl, rfl⟩

/-- The capture loop of a session, whatever its source answers, whatever the collaborators of the
session do, and whenever it is told to stop:

* each frame that the source delivers is submitted, once and in order, and the session is what it is
  after these frames;
* what ends the loop is the last thing that the source answers, or the session: the loop asks and
  submits nothing after it, nor after it was told to stop;
* repeated frames, and cycles that ended for want of a frame, are counted one by one, and unless a
  frame has caused an overflow, the other counters are those of the session, or the bytes that its
  container took;
* an overflow breaks the loop down, so that the counters are right of every loop that returns. -/
theorem frames_relayed_and_counted {b : SessionBuilder ε κ} {width height : UInt32}
    {format : SurfaceFormat} {start : Instant}
    (started : (b.start width height format start).value = .session s) (source : σ)
    (interval : Duration) (fps : Rate) (now : Instant) (moments : List Moment) :
    let loop := (CaptureLoop.launch ⟨source, s⟩ interval now).value
    let metrics := (Metrics.new fps now).start now
    let ran := loop.course metrics moments
    let session := ran.value.1.pipeline
    let counters := ran.value.2
    let polled := (FrameSource.answers source interval (ran.calls.filter Call.isAsk).length).1
    let frames := delivered polled
    let answers := (s.submitAll frames).value.1
    (ran.calls.filterMap Call.submitted? = frames ∧ session = (s.submitAll frames).value.2) ∧
      ((∀ p ∈ polled.dropLast, p.end? = none) ∧
        (∀ answer ∈ answers.dropLast, answerEnd answer = none) ∧
        ∀ before after, moments = before ++ after →
          ((loop.course metrics before).value.1.ended.isSome = true ∨
            ∃ t rest, after = .turn true t :: rest) →
          ran.calls = (loop.course metrics before).calls) ∧
      counters.repeatedFrames = .ofNat (frames.countP fun f => !f.isNew) ∧
      counters.flowControlStops = .ofNat (answers.countP isExhausted) ∧
      ((∀ x, .error x ∉ answers) →
        counters.framesSubmitted = .ofNat session.bound.framesSent ∧
        counters.packetsWritten = .ofNat session.drain.packetsWritten ∧
        counters.writeFailures = .ofNat session.drain.writeFailures ∧
        counters.bytesWritten = .ofNat (takenBytes ran.calls)) ∧
      (ran.value.1.ended ≠ some .broken → ∀ x, .error x ∉ answers) := by
  intro loop metrics ran session counters polled frames answers
  obtain ⟨asked, h⟩ := course_along (along_of_start started source interval fps now) moments
  -- What the source was asked is known from the calls.
  have hpolled : polled = asked := by
    show (FrameSource.answers source interval (ran.calls.filter Call.isAsk).length).1 = asked
    rw [h.relays.asked, h.relays.source_eq]
  have hframes : frames = delivered asked := congrArg delivered hpolled
  have hanswers : answers = s.answersTo asked := by
    show (s.submitAll frames).value.1 = _
    rw [hframes]
    rfl
  rw [hpolled, hanswers, hframes]
  refine ⟨⟨h.relays.submitted, h.relays.pipeline⟩, ⟨h.stops.polled_last, h.stops.answers_last, ?_⟩,
    h.counts.repeated, h.counts.stops, ?_, h.stops.unbroken⟩
  · intro before after hmoments finished
    show (loop.course metrics moments).calls = _
    rw [hmoments]
    exact CaptureLoop.calls_course_over finished
  · intro fits
    obtain ⟨haccounted, htallies⟩ := h.counts.accounted fits
    refine ⟨?_, ?_, ?_, htallies.bytes⟩
    · rw [htallies.sent, ← haccounted.sent]
    · rw [htallies.taken, ← haccounted.taken]
    · rw [htallies.refused, ← haccounted.refused]

/-- A loop that runs and has no need to log its counters asks for a frame, and ends by what is
answered to it. -/
theorem CaptureLoop.turn_fed {now t : Instant} {f : CapturedFrame} {next : σ} {answer : Answer}
    {s' : Session ε κ} (running : l.ended = none)
    (logged : (l.logStatus m now).value = .ok { l with lastStatus := t })
    (polled : (FrameSource.nextFrame l.source l.interval).value = (.frame f, next))
    (submitted : (l.pipeline.submit f).value = (answer, s')) :
    (l.turn m false now).calls.filter Call.isAsk = [.nextFrame l.interval] ∧
      (l.turn m false now).value.1.ended = answerEnd answer := by
  have hrunning : l.ended.isSome = false := by rw [running]; rfl
  obtain ⟨hquiet, -⟩ := l.logStatus_cases m now
  obtain ⟨_, _, rest, hrest, hcalls, hvalue⟩ :=
    take_submits (l := { l with lastStatus := t, source := next }) (m := m) f running submitted
  have hunspoken := (l.pipeline.submit_submitted f).unspoken
  have hlet := unspoken_of_releases hrest
  constructor
  · simp [turn, poll, hrunning, logged, hquiet, polled, hcalls, List.filter_cons, Call.isAsk,
      hunspoken.unasked, hlet.unasked]
  · simp [turn, poll, hrunning, logged, polled, hvalue]

/-- A source that delivers one frame, which repeats the picture before. -/
def repeatingSource : ScriptedSource :=
  { width := 64
    height := 48
    format := .bgra
    cues := [.polled (.frame (sampleFrame .zero).repeated)]
    stopError := none }

/-- A loop that submits that frame and is then told to stop has counted it, its repetition, its
packet and the cycle that ended for want of another. -/
theorem frames_relayed_and_counted_sample :
    let loop := (CaptureLoop.launch ⟨repeatingSource, sampleSession⟩ .zero ⟨0⟩).value
    let metrics := (Metrics.new Metrics.defaultTargetFps ⟨0⟩).start ⟨0⟩
    let ran := loop.course metrics [.turn false ⟨0⟩, .turn true ⟨0⟩]
    let counters := ran.value.2
    ran.value.1.ended = some (.returned .userRequested) ∧
      ran.calls.filterMap Call.submitted? = [(sampleFrame .zero).repeated] ∧
      counters.framesSubmitted = 1 ∧ counters.repeatedFrames = 1 ∧
      counters.flowControlStops = 1 ∧ counters.packetsWritten = 1 ∧ counters.writeFailures = 0 ∧
      counters.bytesWritten = .ofNat (takenBytes ran.calls) := by
  let loop := (CaptureLoop.launch ⟨repeatingSource, sampleSession⟩ .zero ⟨0⟩).value
  let metrics := (Metrics.new Metrics.defaultTargetFps ⟨0⟩).start ⟨0⟩
  let f := (sampleFrame .zero).repeated
  have hfirst : (loop.turn metrics false ⟨0⟩).calls.filter Call.isAsk = [.nextFrame .zero] ∧
      (loop.turn metrics false ⟨0⟩).value.1.ended = none := by
    have hlogged : (loop.logStatus metrics ⟨0⟩).value = .ok { loop with lastStatus := ⟨0⟩ } := rfl
    have hpolled : (FrameSource.nextFrame loop.source loop.interval).value =
        (.frame f, { repeatingSource with cues := [] }) := rfl
    have hanswer : (loop.pipeline.submit f).value.1 = .ok (.ok ⟨1, 6, 0, .exhausted⟩) := by cbv
    have hsubmit : (loop.pipeline.submit f).value =
        (.ok (.ok ⟨1, 6, 0, .exhausted⟩), (loop.pipeline.submit f).value.2) :=
      Prod.ext hanswer rfl
    exact CaptureLoop.turn_fed rfl hlogged hpolled hsubmit
  have hcourse : loop.course metrics [.turn false ⟨0⟩, .turn true ⟨0⟩] =
      loop.turn metrics false ⟨0⟩ >>= fun x => x.1.turn x.2 true ⟨0⟩ := by
    simp only [CaptureLoop.course, List.foldlM_cons, List.foldlM_nil, bind_pure]
    rfl
  have hrun := frames_relayed_and_counted sampleBuilder_starts repeatingSource .zero
    Metrics.defaultTargetFps ⟨0⟩ [.turn false ⟨0⟩, .turn true ⟨0⟩]
  -- Of the course itself no more is needed than that it asks once, and ends by being told to stop.
  have hasked : ((loop.course metrics [.turn false ⟨0⟩, .turn true ⟨0⟩]).calls.filter
      Call.isAsk).length = 1 := by
    rw [hcourse, calls_bind, (CaptureLoop.turn_told _ _ _).1, List.append_nil, hfirst.1]
    rfl
  have hended : (loop.course metrics [.turn false ⟨0⟩, .turn true ⟨0⟩]).value.1.ended =
      some (.returned .userRequested) := by
    rw [hcourse, value_bind, (CaptureLoop.turn_told _ _ _).2, hfirst.2, Option.none_or]
  clear hcourse hfirst
  dsimp only [loop, metrics] at hrun hasked hended ⊢
  generalize @CaptureLoop.course ScriptedSource (Session ScriptedEncoder MemoryContainer)
    _ _ _ _ _ = ran at hrun hasked hended ⊢
  have hframes : delivered (FrameSource.answers repeatingSource .zero
      (ran.calls.filter Call.isAsk).length).1 = [f] := by
    rw [hasked]
    rfl
  rw [hframes] at hrun
  obtain ⟨⟨hrelayed, hsession⟩, -, hrepeated, hstops, hcounted, hfits⟩ := hrun
  obtain ⟨hsent, htaken, hrefused, hbytes⟩ := hcounted (hfits (by rw [hended]; simp))
  have hanswers : (sampleSession.submitAll [f]).value.1 = [.ok (.ok ⟨1, 6, 0, .exhausted⟩)] := by
    cbv
  have hframesSent : (sampleSession.submitAll [f]).value.2.bound.framesSent = 1 := by cbv
  have hwritten : (sampleSession.submitAll [f]).value.2.drain.packetsWritten = 1 := by cbv
  have hfailures : (sampleSession.submitAll [f]).value.2.drain.writeFailures = 0 := by cbv
  rw [hanswers] at hstops
  rw [hsession, hframesSent] at hsent
  rw [hsession, hwritten] at htaken
  rw [hsession, hfailures] at hrefused
  exact ⟨hended, hrelayed, hsent, hrepeated, hstops, htaken, hrefused, hbytes⟩

end Framecast

import Mathlib.Data.Option.Basic
import Framecast.Engine.Launcher
import Framecast.Proofs.Engine.Told

/-!
# Two runs that are alike

What an engine tells in one run is compared with what it tells in another one. The clocks of the two
runs do not agree, but the moments of both lie equally long after a first one (`Instant.Shifted`).
The launchers, sources and pipelines of the two runs are such that nobody can tell them apart by
what they answer and announce (`Likeness`). Then neither can the counters and the capture loops be
told apart that are made of them: a turn of the one loop tells the same as a turn of the other one
(`turn_alike`).

Work that offers the same events on both sides is put together from such work (`Journaled.Alike`).
What is written to the log does not matter.
-/

namespace Framecast

open Journaled

/-! ## Work -/

/-- Two pieces of work offer the same events, and their outcomes are related. -/
structure Journaled.Alike {α β : Type} (R : α → β → Prop) (x : Journaled α) (y : Journaled β) :
    Prop where
  /-- The events are the same, in the same order. -/
  events : x.events = y.events
  /-- The outcomes are related. -/
  value : R x.value y.value

namespace Journaled.Alike

variable {α β γ δ : Type} {R : α → β → Prop} {S : γ → δ → Prop} {x : Journaled α} {y : Journaled β}

/-- Nothing happens on either side. -/
theorem pure {a : α} {b : β} (h : R a b) : Alike R (Pure.pure a) (Pure.pure b) := ⟨rfl, h⟩

/-- One thing is done after the other. -/
theorem bind (h : Alike R x y) {f : α → Journaled γ} {g : β → Journaled δ}
    (rest : ∀ a b, R a b → Alike S (f a) (g b)) : Alike S (x >>= f) (y >>= g) := by
  obtain ⟨hevents, hvalue⟩ := rest _ _ h.value
  exact ⟨by rw [events_bind, events_bind, h.events, hevents], hvalue⟩

/-- Something is done that offers no events and has no outcome. -/
theorem after {u v : Journaled Unit} (hu : u.events = []) (hv : v.events = []) (h : Alike R x y) :
    Alike R (u >>= fun _ => x) (v >>= fun _ => y) :=
  ⟨by rw [events_bind, events_bind, hu, hv, h.events], h.value⟩

/-- Both fall into a span. -/
theorem within (h : Alike R x y) (s t : Span) : Alike R (x.within s) (y.within t) :=
  ⟨by rw [events_within, events_within, h.events], h.value⟩

/-- Both happen aside. -/
theorem elsewhere (h : Alike R x y) : Alike R x.elsewhere y.elsewhere :=
  ⟨by rw [events_elsewhere, events_elsewhere, h.events], h.value⟩

/-- Outcomes that are related are related in a weaker way. -/
theorem mono {R' : α → β → Prop} (h : Alike R x y) (weaker : ∀ a b, R a b → R' a b) :
    Alike R' x y :=
  ⟨h.events, weaker _ _ h.value⟩

end Journaled.Alike

/-! ## Moments -/

/-- A moment of the one run lies as long after its first moment as a moment of the other run does
after that one's. -/
def Instant.Shifted (t₁ t₂ a b : Instant) : Prop := a.nanos + t₂.nanos = b.nanos + t₁.nanos

variable {t₁ t₂ : Instant}

/-- As much time has passed in both runs. -/
theorem Instant.Shifted.since_eq {a a' b b' : Instant} (h : Shifted t₁ t₂ a b)
    (h' : Shifted t₁ t₂ a' b') : a.since a' = b.since b' := by
  have hnanos : a.nanos - a'.nanos = b.nanos - b'.nanos := by
    unfold Shifted at h h'
    omega
  rw [since, since, hnanos]

/-! ## Counters -/

namespace Metrics

/-- The counters are the same, and their moments lie equally long after the first of each run. -/
def Alike (t₁ t₂ : Instant) (a b : Metrics) : Prop :=
  ∃ started reported, b = { a with startTime := started, lastReport := reported } ∧
    Option.Rel (Instant.Shifted t₁ t₂) a.startTime started ∧
    Instant.Shifted t₁ t₂ a.lastReport reported

variable {a b : Metrics} {s t : Instant}

/-- The counters of a session that starts. -/
theorem alike_start (h : Instant.Shifted t₁ t₂ s t) (targetFps : Rate) :
    Alike t₁ t₂ ((new targetFps s).start s) ((new targetFps t).start t) :=
  ⟨some t, t, rfl, .some h, h⟩

/-- A session has run as long on both sides, if it runs. -/
theorem Alike.startTime_cases (h : Alike t₁ t₂ a b) :
    (a.startTime = none ∧ b.startTime = none) ∨
      ∃ s t, a.startTime = some s ∧ b.startTime = some t ∧ Instant.Shifted t₁ t₂ s t := by
  obtain ⟨started, reported, rfl, hstarted, -⟩ := h
  generalize a.startTime = start at hstarted ⊢
  cases hstarted with
  | none => exact .inl ⟨rfl, rfl⟩
  | some hst => exact .inr ⟨_, _, rfl, rfl, hst⟩

/-- The same figures are taken of counters that are alike. -/
theorem Alike.snapshot_eq (h : Alike t₁ t₂ a b) (hst : Instant.Shifted t₁ t₂ s t) :
    a.snapshot s = b.snapshot t := by
  have hstart := h.startTime_cases
  obtain ⟨started, reported, rfl, -, hreported⟩ := h
  have hrate :
      a.frameRate s = frameRate { a with startTime := started, lastReport := reported } t := by
    simp only [frameRate, hst.since_eq hreported]
  have hbits : a.bitrateKbps s =
      bitrateKbps { a with startTime := started, lastReport := reported } t := by
    obtain ⟨ha, rfl⟩ | ⟨s', t', ha, rfl, hst'⟩ := hstart
    · simp only [bitrateKbps, ha]
    · simp only [bitrateKbps, ha, hst.since_eq hst']
  have huptime : a.uptime s = uptime { a with startTime := started, lastReport := reported } t := by
    obtain ⟨ha, rfl⟩ | ⟨s', t', ha, rfl, hst'⟩ := hstart
    · simp only [uptime, ha]
    · simp only [uptime, ha, hst.since_eq hst']
  unfold snapshot
  rw [hrate, hbits, huptime]

/-- The same warnings are given for counters that are alike, which stay alike. -/
theorem Alike.checkWarnings (h : Alike t₁ t₂ a b) (hst : Instant.Shifted t₁ t₂ s t)
    (figures : SessionStats) :
    (a.checkWarnings figures s).1 = (b.checkWarnings figures t).1 ∧
      Alike t₁ t₂ (a.checkWarnings figures s).2 (b.checkWarnings figures t).2 := by
  have hstart := h.startTime_cases
  obtain ⟨started, reported, rfl, hstarted, hreported⟩ := h
  have hsettled :
      a.isSettled s = isSettled { a with startTime := started, lastReport := reported } t := by
    obtain ⟨ha, rfl⟩ | ⟨s', t', ha, rfl, hst'⟩ := hstart
    · simp only [isSettled, ha, Option.any_none]
    · simp only [isSettled, ha, Option.any_some, hst.since_eq hst']
  refine ⟨?_, started, reported, rfl, hstarted, hreported⟩
  simp only [Metrics.checkWarnings, hsettled]

/-- Marking a report leaves counters alike. -/
theorem Alike.markReported (h : Alike t₁ t₂ a b) (hst : Instant.Shifted t₁ t₂ s t) :
    Alike t₁ t₂ (a.markReported s) (b.markReported t) := by
  obtain ⟨started, reported, rfl, hstarted, -⟩ := h
  exact ⟨started, t, rfl, hstarted, hst⟩

/-- Counters that are alike stop alike. -/
theorem Alike.stop (h : Alike t₁ t₂ a b) : Alike t₁ t₂ a.stop b.stop := by
  obtain ⟨started, reported, rfl, -, hreported⟩ := h
  exact ⟨none, reported, rfl, .none, hreported⟩

/-- A frame that repeats a picture leaves counters alike. -/
theorem Alike.recordRepeated (h : Alike t₁ t₂ a b) :
    Alike t₁ t₂ a.recordRepeated b.recordRepeated := by
  obtain ⟨started, reported, rfl, hstarted, hreported⟩ := h
  exact ⟨started, reported, rfl, hstarted, hreported⟩

/-- A frame and its drain cycle leave counters alike. -/
theorem Alike.recordDrain (h : Alike t₁ t₂ a b) (r : DrainReport) :
    Alike t₁ t₂ (a.recordDrain r) (b.recordDrain r) := by
  obtain ⟨started, reported, rfl, hstarted, hreported⟩ := h
  obtain ⟨written, bytes, failures, outcome⟩ := r
  cases outcome <;> exact ⟨started, reported, rfl, hstarted, hreported⟩

end Metrics

/-! ## Launchers, sources and pipelines -/

section Likeness

variable {ℓ σ π : Type}

/-- Answers to a launch that cannot be told apart. -/
inductive LaunchedAlike (sources : σ → σ → Prop) (pipelines : π → π → Prop) :
    Except SessionError (Launched σ π) → Except SessionError (Launched σ π) → Prop
  /-- The launch fails, with the same error. -/
  | failed (x : SessionError) : LaunchedAlike sources pipelines (.error x) (.error x)
  /-- A session is launched, and neither its source nor its pipeline can be told apart. -/
  | launched {a b : Launched σ π} (source : sources a.source b.source)
      (pipeline : pipelines a.pipeline b.pipeline) :
      LaunchedAlike sources pipelines (.ok a) (.ok b)

/-- Which launchers, sources and pipelines of two runs cannot be told apart from these first moments
on: whatever they are asked at moments that correspond to each other, they answer and announce the
same, and what becomes of them cannot be told apart either. -/
structure Likeness (ℓ σ π : Type) [FrameSource σ] [Pipeline π] [Launcher ℓ σ π]
    (t₁ t₂ : Instant) where
  launchers : ℓ → ℓ → Prop
  sources : σ → σ → Prop
  pipelines : π → π → Prop
  /-- Launching. -/
  launch : ∀ {a b}, launchers a b → ∀ config {s t}, Instant.Shifted t₁ t₂ s t →
    (Launcher.launch a config s).tidings = (Launcher.launch b config t).tidings ∧
      LaunchedAlike sources pipelines (Launcher.launch a config s).value.1
        (Launcher.launch b config t).value.1 ∧
      launchers (Launcher.launch a config s).value.2 (Launcher.launch b config t).value.2
  /-- Asking for a frame. -/
  nextFrame : ∀ {a b}, sources a b → ∀ timeout,
    (FrameSource.nextFrame a timeout).Alike (fun x y => x.1 = y.1 ∧ sources x.2 y.2)
      (FrameSource.nextFrame b timeout)
  /-- Submitting a frame. -/
  submit : ∀ {a b}, pipelines a b → ∀ f,
    (Pipeline.submit a f).Alike (fun x y => x.1 = y.1 ∧ pipelines x.2 y.2) (Pipeline.submit b f)
  /-- Finishing. -/
  finish : ∀ {a b}, pipelines a b → ∀ {s t}, Instant.Shifted t₁ t₂ s t →
    (Pipeline.finish a s).tidings = (Pipeline.finish b t).tidings ∧
      (Pipeline.finish a s).value = (Pipeline.finish b t).value
  /-- Letting go of a pipeline as it is. -/
  release : ∀ {a b}, pipelines a b →
    (Pipeline.release a).events = (Pipeline.release b).events

variable [FrameSource σ] [Pipeline π] [Launcher ℓ σ π] (K : Likeness ℓ σ π t₁ t₂)

/-! ## Capture loops -/

namespace CaptureLoop

/-- Loops that cannot be told apart by what comes of them. -/
structure Alike (a b : CaptureLoop σ π) : Prop where
  /-- Their sources cannot be told apart. -/
  source : K.sources a.source b.source
  /-- Neither can their pipelines. -/
  pipeline : K.pipelines a.pipeline b.pipeline
  /-- They wait for a frame as long. -/
  interval : a.interval = b.interval
  /-- They are as long from their next log line. -/
  lastStatus : Instant.Shifted t₁ t₂ a.lastStatus b.lastStatus
  /-- As many frames came. -/
  received : a.received = b.received
  /-- They have ended in the same way, or run. -/
  ended : a.ended = b.ended

/-- A loop and its counters cannot be told apart from those of the other run. -/
def AlikeCounting (x y : CaptureLoop σ π × Metrics) : Prop :=
  x.1.Alike K y.1 ∧ x.2.Alike t₁ t₂ y.2

variable {K} {a b : CaptureLoop σ π} {m n : Metrics} {s t : Instant}

/-- Loops that are alike return alike. -/
theorem finish_alike (h : a.Alike K b) (hm : m.Alike t₁ t₂ n) (reason : StopReason) :
    (do return (← a.finish reason, m) : Journaled _).Alike (AlikeCounting K)
      (do return (← b.finish reason, n)) := by
  have hfinish : (a.finish reason).Alike (fun x y => x.Alike K y) (b.finish reason) :=
    .after rfl rfl (.pure { h with ended := rfl })
  exact hfinish.bind fun _ _ hl => .pure ⟨hl, hm⟩

/-- Loops that are alike break down alike. -/
theorem breakDown_alike (h : a.Alike K b) (hm : m.Alike t₁ t₂ n) :
    (do return (← a.breakDown, m) : Journaled _).Alike (AlikeCounting K)
      (do return (← b.breakDown, n)) := by
  have hrelease : (Pipeline.release a.pipeline).Alike (fun _ _ => True)
      (Pipeline.release b.pipeline) := ⟨K.release h.pipeline, trivial⟩
  have hbreak : a.breakDown.Alike (fun x y => x.Alike K y) b.breakDown :=
    .after rfl rfl (hrelease.bind fun _ _ _ => .after rfl rfl (.pure { h with ended := rfl }))
  exact hbreak.bind fun _ _ hl => .pure ⟨hl, hm⟩

/-- Loops that are alike settle the answer to a frame alike. -/
theorem settle_alike (h : a.Alike K b) (hm : m.Alike t₁ t₂ n) (f : CapturedFrame)
    (answer : Except SessionError DrainReport) :
    (a.settle m f answer).Alike (AlikeCounting K) (b.settle n f answer) := by
  rcases answer with e | report
  · simp only [settle]
    split
    · exact .after rfl rfl (.pure ⟨{ h with }, hm⟩)
    · split
      · exact finish_alike h hm _
      · exact .after rfl rfl (finish_alike h hm _)
  · simp only [settle]
    split
    · exact finish_alike h (hm.recordDrain report) _
    · exact .pure ⟨h, hm.recordDrain report⟩

/-- What a loop does with a frame that it has counted. -/
def pass (l : CaptureLoop σ π) (m : Metrics) (f : CapturedFrame) :
    Journaled (CaptureLoop σ π × Metrics) := do
  call (.submit f)
  let (r, pipeline) ← Pipeline.submit l.pipeline f
  let l := { l with pipeline }
  match r with
  | .error _ => return (← l.breakDown, m)
  | .ok answer => l.settle m f answer

/-- Loops that are alike submit a frame alike, and deal with the answer. -/
theorem pass_alike (h : a.Alike K b) (hm : m.Alike t₁ t₂ n) (f : CapturedFrame) :
    (a.pass m f).Alike (AlikeCounting K) (b.pass n f) := by
  refine .after rfl rfl ((K.submit h.pipeline f).bind ?_)
  rintro ⟨r, pipeline⟩ ⟨r', pipeline'⟩ ⟨rfl, hpipeline⟩
  have hl : Alike K { a with pipeline } { b with pipeline := pipeline' } :=
    { h with pipeline := hpipeline }
  rcases r with x | answer
  · exact breakDown_alike hl hm
  · exact settle_alike hl hm f answer

/-- Loops that are alike take a frame alike. -/
theorem take_alike (h : a.Alike K b) (hm : m.Alike t₁ t₂ n) (f : CapturedFrame) :
    (a.take m f).Alike (AlikeCounting K) (b.take n f) := by
  have hcounted : (if f.isNew then m else m.recordRepeated).Alike t₁ t₂
      (if f.isNew then n else n.recordRepeated) := by
    split
    · exact hm
    · exact hm.recordRepeated
  have hl : Alike K { a with received := b.received + 1 } { b with received := b.received + 1 } :=
    { h with received := rfl }
  -- Whether the frame is mentioned in the log makes no difference.
  simp only [take, h.received]
  split
  · exact .after rfl rfl (pass_alike hl hcounted f)
  · exact pass_alike hl hcounted f

/-- Loops that are alike ask for a frame, and deal with the answer, alike. -/
theorem poll_alike (h : a.Alike K b) (hm : m.Alike t₁ t₂ n) :
    (a.poll m).Alike (AlikeCounting K) (b.poll n) := by
  simp only [poll, h.interval]
  refine .after rfl rfl ((K.nextFrame h.source b.interval).bind ?_)
  rintro ⟨polled, source⟩ ⟨polled', source'⟩ ⟨rfl, hsource⟩
  have hl : Alike K { a with source, interval := b.interval } { b with source := source' } :=
    { h with source := hsource, interval := rfl }
  rcases polled with f | _ | e | _
  · exact take_alike hl hm f
  · exact .pure ⟨hl, hm⟩
  · cases e with
    | stopped => exact finish_alike hl hm _
    | _ => exact .after rfl rfl (finish_alike hl hm _)
  · exact breakDown_alike hl hm

/-- Loops that are alike take a turn alike. -/
theorem turn_alike (h : a.Alike K b) (hm : m.Alike t₁ t₂ n) (stop : Bool)
    (hst : Instant.Shifted t₁ t₂ s t) :
    (a.turn m stop s).Alike (AlikeCounting K) (b.turn n stop t) := by
  simp only [turn, logStatus, h.ended, hst.since_eq h.lastStatus, hm.snapshot_eq hst]
  split
  · exact .pure ⟨h, hm⟩
  · split
    · exact finish_alike h hm _
    · split
      · exact poll_alike h hm
      · rcases n.snapshot t with x | figures
        · exact breakDown_alike h hm
        · simp only [bind_assoc, pure_bind]
          exact .after rfl rfl (poll_alike { h with lastStatus := hst, ended := rfl } hm)

end CaptureLoop

end Likeness

end Framecast

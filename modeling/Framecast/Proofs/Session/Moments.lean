import Framecast.Proofs.Engine.Alike
import Framecast.Proofs.Engine.Quiet

/-!
# The moment at which a session starts

A session remembers when it was started, and only its duration depends on that. So what it answers
to a frame does not change with that moment, and what it amounts to does not either, if it is
finished as long after. Two launchers that find the same answers from their next launches on
therefore cannot be told apart, whatever they launched before (`SessionLauncher.likeness`).
-/

namespace Framecast

open Journaled

variable {ε κ : Type} [Encoder ε] [Container κ] {t₁ t₂ : Instant}

namespace Session

/-- The session, had it started at another moment. -/
def startedAt (s : Session ε κ) (t : Instant) : Session ε κ := { s with started := t }

/-- The answer after a drain cycle does not depend on the start. -/
theorem value_drainAfter_startedAt (s : Session ε κ) (t : Instant) (pts : Int64) :
    ((s.startedAt t).drainAfter pts).value =
      ((s.drainAfter pts).value.1, (s.drainAfter pts).value.2.startedAt t) := by
  simp only [drainAfter, startedAt, value_bind]
  rcases (PacketDrain.cycle s.drain s.bound.encoder s.bound.config.timeBase s.stream pts
    s.container).value.result with x | e | report <;> rfl

/-- The answer to a frame does not depend on the start. -/
theorem value_submit_startedAt (s : Session ε κ) (t : Instant) (f : CapturedFrame) :
    ((s.startedAt t).submit f).value =
      ((s.submit f).value.1, (s.submit f).value.2.startedAt t) := by
  have hat : ∀ pts, ((s.startedAt t).submitAt f pts).value =
      ((s.submitAt f pts).value.1, (s.submitAt f pts).value.2.startedAt t) := by
    intro pts
    simp only [submitAt, value_bind]
    rcases hb : (s.bound.submit (surface f pts)).value with ⟨e | u, bound⟩
    · simp [startedAt, hb]
    · have h := value_drainAfter_startedAt { s with bound, lastPts := some pts } t pts
      simpa [startedAt, hb] using h
  unfold submit
  rcases f.isValid with x | _ | _
  · rfl
  · rfl
  · cases hterminal : s.drain.isTerminal with
    | true => simp [startedAt, hterminal]
    | false =>
      rcases hstamp : nextStamp s.lastPts
        (s.bound.config.timeBase.ticks f.timestamp.sinceStart) with x | pts
      · simp [startedAt, hterminal, hstamp]
      · simpa [startedAt, hterminal, hstamp] using hat pts

/-- What a flush comes to does not depend on the start. -/
theorem value_flush_startedAt (s : Session ε κ) (t : Instant) :
    (s.startedAt t).flush.value = (s.flush.value.1, s.flush.value.2.startedAt t) := by
  unfold flush
  cases hterminal : s.drain.isTerminal with
  | true => simp [startedAt, hterminal]
  | false =>
    rcases hb : s.bound.flush.value with ⟨e | u, bound⟩
    · simp [startedAt, hterminal, hb]
    · have h := value_drainAfter_startedAt { s with bound } t (s.lastPts.getD 0)
      simp only [startedAt] at h
      rcases hd : ({ s with bound }.drainAfter (s.lastPts.getD 0)).value with
        ⟨x | e | report, s'⟩ <;>
        simp [startedAt, hterminal, hb, h, hd]

/-- What a session amounts to depends on the start only as far as its duration does. -/
theorem result_finish_startedAt (s : Session ε κ) {a b a' b' : Instant}
    (same : a'.since a = b'.since b) :
    ((s.startedAt a).finish a').value.result = ((s.startedAt b).finish b').value.result := by
  have hflush := s.value_flush_startedAt
  have hstarted : ∀ t, (s.startedAt t).started = t := fun _ => rfl
  unfold finish
  simp only [value_within, value_bind, hflush, hstarted, same]
  rcases s.flush.value with ⟨x | failure, s'⟩
  · rfl
  · rfl

/-- The same session, started equally long after the first moment of its run. -/
inductive Shifted (t₁ t₂ : Instant) : Session ε κ → Session ε κ → Prop
  /-- The session may have started at any two corresponding moments. -/
  | intro (s : Session ε κ) {a b : Instant} (moments : Instant.Shifted t₁ t₂ a b) :
      Shifted t₁ t₂ (s.startedAt a) (s.startedAt b)

variable {s s' : Session ε κ}

/-- Sessions that differ by their start take a frame alike. -/
theorem Shifted.submit (h : Shifted t₁ t₂ s s') (f : CapturedFrame) :
    (Pipeline.submit s f).Alike (fun x y => x.1 = y.1 ∧ Shifted t₁ t₂ x.2 y.2)
      (Pipeline.submit s' f) := by
  cases h with
  | intro s moments =>
    refine ⟨by simp [events], ?_⟩
    have hvalue : ∀ t, (Pipeline.submit (s.startedAt t) f).value =
        ((s.submit f).value.1, (s.submit f).value.2.startedAt t) :=
      fun t => s.value_submit_startedAt t f
    rw [hvalue, hvalue]
    exact ⟨rfl, .intro _ moments⟩

/-- Sessions that differ by their start finish alike, at corresponding moments. -/
theorem Shifted.finish (h : Shifted t₁ t₂ s s') {a b : Instant} (hab : Instant.Shifted t₁ t₂ a b) :
    (Pipeline.finish s a).tidings = (Pipeline.finish s' b).tidings ∧
      (Pipeline.finish s a).value = (Pipeline.finish s' b).value := by
  cases h with
  | intro s moments =>
    have hvalue : (Pipeline.finish (s.startedAt _) a).value =
        (Pipeline.finish (s.startedAt _) b).value :=
      s.result_finish_startedAt (hab.since_eq moments)
    refine ⟨?_, hvalue⟩
    rw [tidings_finish_pipeline, tidings_finish_pipeline, hvalue]

end Session

namespace SessionBuilder

/-- What a start comes to at another moment. -/
def restartedAt (t : Instant) : Started ε κ → Started ε κ
  | .session s => .session (s.startedAt t)
  | .failed e c => .failed e c

/-- The moment at which the output is opened is the moment that the session remembers, and no more.
-/
theorem value_openOutput_at (b : SessionBuilder ε κ) (bound : BoundEncoder ε) (s t : Instant) :
    (b.openOutput bound t).value = restartedAt t (b.openOutput bound s).value := by
  unfold openOutput
  rcases hp : (publish b.container bound.config (Encoder.extradata bound.encoder)).value with
    ⟨e | stream, c⟩
  · simp [hp, restartedAt, abandon]
  · rcases hh : Container.writeHeader c with ⟨f | u, c'⟩
    · simp [hp, hh, restartedAt, abandon]
    · simp [hp, hh, restartedAt, Session.startedAt]

/-- So is the moment of the start. -/
theorem value_start_at (b : SessionBuilder ε κ) (width height : UInt32) (format : SurfaceFormat)
    (s t : Instant) :
    (b.start width height format t).value =
      restartedAt t (b.start width height format s).value := by
  unfold start
  rw [value_within, value_within]
  rcases b.config.validate with e | u
  · rfl
  rcases ha : b.driver.acquire.value with e | device
  · simp [ha, restartedAt, abandon]
  rcases hc : (configure b.backend.hasEncoder (b.request width height)).value with e | config
  · simp [ha, hc, restartedAt, abandon]
  rcases hb : (b.backend.bind device config format.pixelFormat).value with e | bound
  · simp [ha, hc, hb, restartedAt, abandon]
  · have h := b.value_openOutput_at bound s t
    simpa [ha, hc, hb] using h

end SessionBuilder

namespace SessionLauncher

variable {σ : Type} [FrameSource σ]

/-- The launchers find the same answers from their next launches on. -/
structure Agree (a b : SessionLauncher ε κ σ) : Prop where
  /-- The drivers are the same. -/
  driver : ∀ n, a.driver (a.launches + n) = b.driver (b.launches + n)
  /-- The encoder libraries are the same. -/
  backend : ∀ n, a.backend (a.launches + n) = b.backend (b.launches + n)
  /-- The sources are the same. -/
  openSource : ∀ n, a.openSource (a.launches + n) = b.openSource (b.launches + n)
  /-- The containers are the same. -/
  openContainer : ∀ n, a.openContainer (a.launches + n) = b.openContainer (b.launches + n)

variable {a b : SessionLauncher ε κ σ} {s t : Instant}

omit [Encoder ε] [Container κ] [FrameSource σ] in
/-- Launchers that agree do so after a launch. -/
theorem Agree.next (h : Agree a b) :
    Agree { a with launches := a.launches + 1 } { b with launches := b.launches + 1 } where
  driver n := by simpa only [Nat.add_assoc] using h.driver (1 + n)
  backend n := by simpa only [Nat.add_assoc] using h.backend (1 + n)
  openSource n := by simpa only [Nat.add_assoc] using h.openSource (1 + n)
  openContainer n := by simpa only [Nat.add_assoc] using h.openContainer (1 + n)

omit [Encoder ε] [Container κ] [FrameSource σ] in
/-- If a launcher finds the same answers at every launch, it does not matter how many there were. -/
theorem agree_of_steady {l : SessionLauncher ε κ σ} (driver : ∀ m n, l.driver m = l.driver n)
    (backend : ∀ m n, l.backend m = l.backend n)
    (openSource : ∀ m n, l.openSource m = l.openSource n)
    (openContainer : ∀ m n, l.openContainer m = l.openContainer n) (launches : Nat) :
    Agree { l with launches } l :=
  ⟨fun _ => driver _ _, fun _ => backend _ _, fun _ => openSource _ _, fun _ => openContainer _ _⟩

/-- A launcher launches sessions that differ by their start. -/
theorem startWith_alike (l : SessionLauncher ε κ σ) (source : σ) (config : SessionConfig)
    (hst : Instant.Shifted t₁ t₂ s t) :
    LaunchedAlike Eq (Session.Shifted t₁ t₂) (l.startWith source config s).value
      (l.startWith source config t).value := by
  unfold startWith
  rcases l.openContainer l.launches config with e | container
  · simp only [value_bind, value_abandon]
    exact .failed _
  let builder := SessionBuilder.mk (l.driver l.launches) (l.backend l.launches) container config
  have hstart := builder.value_start_at (FrameSource.dimensions source).1
    (FrameSource.dimensions source).2 (FrameSource.format source) s
  simp only [value_bind]
  rw [hstart s, hstart t]
  rcases (builder.start _ _ _ s).value with x | ⟨e, c⟩
  · exact .launched rfl (.intro x hst)
  · simp only [SessionBuilder.restartedAt, value_abandon]
    exact .failed _

/-- Launchers that agree launch sessions that differ by their start. -/
theorem Agree.launched (h : Agree a b) (config : SessionConfig)
    (hst : Instant.Shifted t₁ t₂ s t) :
    LaunchedAlike Eq (Session.Shifted t₁ t₂) (a.launch config s).value.1
      (b.launch config t).value.1 := by
  have hsource : a.openSource a.launches = b.openSource b.launches := h.openSource 0
  have hwith : ∀ source, a.startWith source config s = b.startWith source config s := by
    have hdriver : a.driver a.launches = b.driver b.launches := h.driver 0
    have hbackend : a.backend a.launches = b.backend b.launches := h.backend 0
    have hcontainer : a.openContainer a.launches = b.openContainer b.launches := h.openContainer 0
    intro source
    simp only [startWith, hdriver, hbackend, hcontainer]
  simp only [launch, hsource, hwith]
  rcases b.openSource b.launches config with e | source
  · exact .failed _
  · exact b.startWith_alike source config hst

/-- A launch is counted. -/
theorem launcher_launch (l : SessionLauncher ε κ σ)
    (config : SessionConfig) (now : Instant) :
    (l.launch config now).value.2 = { l with launches := l.launches + 1 } := by
  unfold launch
  rcases l.openSource l.launches config with e | source <;> rfl

/-- Launchers that agree, the same sources, and sessions that differ by their start cannot be told
apart. -/
def likeness (ε κ σ : Type) [Encoder ε] [Container κ] [FrameSource σ] (t₁ t₂ : Instant) :
    Likeness (SessionLauncher ε κ σ) σ (Session ε κ) t₁ t₂ where
  launchers := Agree
  sources := Eq
  pipelines := Session.Shifted t₁ t₂
  launch := by
    intro a b h config s t hst
    have hlaunched := h.launched config hst
    change (a.launch config s).tidings = (b.launch config t).tidings ∧
      LaunchedAlike Eq (Session.Shifted t₁ t₂) (a.launch config s).value.1
        (b.launch config t).value.1 ∧
      Agree (a.launch config s).value.2 (b.launch config t).value.2
    refine ⟨?_, hlaunched, ?_⟩
    · rw [tidings_launch, tidings_launch]
      generalize (a.launch config s).value.1 = x, (b.launch config t).value.1 = y at hlaunched ⊢
      cases hlaunched with
      | failed e => rfl
      | launched source pipeline => rfl
    · rw [launcher_launch, launcher_launch]
      exact h.next
  nextFrame := by
    rintro a _ rfl timeout
    exact ⟨rfl, rfl, rfl⟩
  submit h f := h.submit f
  finish h := h.finish
  release _ := by simp [events]

end SessionLauncher

end Framecast

import Framecast.Proofs.Engine.Launched
import Framecast.Proofs.Session.Custody
import Framecast.Proofs.Session.Phases
import Framecast.Proofs.Session.Sample

/-!
# A launch that fails

A launch takes a source, then a container, and its session then takes what it holds. When one of the
three fails, all that was taken before it is let go, the last taken first, and the source is stopped
at the very end. What the source answers is not heard: the launch gives the error that it met in the
first place.

That no source is stopped at any other time is a fact about starts: all that a start calls belongs
to one of its phases, or lets something go (`Call.ofStart`). So the one stop there can be is the one
that ends the launch (`launch_unwinds`).
-/

namespace Framecast

open Journaled

/-! ## What a start may call -/

/-- A start may call it: it belongs to one of its phases, or lets something go. -/
def Call.ofStart (c : Call) : Prop := c.isRelease = true ∨ c.startupPhase?.isSome = true

/-- Calls that suit a phase of a start are for a start to make. -/
theorem ofStart_of_suits {calls : List Call} {phase : Option StartupPhase}
    (h : ∀ c ∈ calls, c.suits phase) : ∀ c ∈ calls, c.ofStart :=
  fun c hc => (h c hc).imp_right And.left

/-- A start lets resources go. -/
@[simp] theorem Call.ofStart_release (r : Resource) : (Call.release r).ofStart := .inl rfl

/-- It lets a device context go. -/
@[simp] theorem Call.ofStart_destroyContext (raw : RawContext) (answer : Except Fault Unit) :
    (Call.destroyContext raw answer).ofStart := .inl rfl

/-- It writes a header. -/
@[simp] theorem Call.ofStart_writeHeader (answer : Except Fault Unit) :
    (Call.writeHeader answer).ofStart := .inr rfl

/-- It stops no source. -/
theorem Call.not_ofStart_stopSource (answer : Except CaptureError Unit) :
    ¬ (Call.stopSource answer).ofStart := by
  simp [Call.ofStart, Call.isRelease, Call.startupPhase?]

section Starting

variable {ε κ : Type}

/-- What a bound encoder lets go. -/
theorem BoundEncoder.ofStart_releaseCalls (bound : BoundEncoder ε) :
    ∀ c ∈ bound.releaseCalls, c.ofStart := by
  simp [BoundEncoder.releaseCalls]

variable [Encoder ε] [Container κ]

namespace SessionBuilder

variable {b : SessionBuilder ε κ} {width height : UInt32} {format : SurfaceFormat} {now : Instant}
  {calls : List Call}

omit [Encoder ε] in
/-- What is called to plan an encoder. -/
theorem ofStart_planCalls (b : SessionBuilder ε κ) (width height : UInt32) :
    ∀ c ∈ b.planCalls width height, c.ofStart := by
  unfold planCalls
  rw [List.forall_mem_append]
  exact ⟨ofStart_of_suits b.driver.acquire_acquiredBy.suits, ofStart_of_suits (configure_suits _ _)⟩

/-- What is called to bind one. -/
theorem Binds.ofStart {bound : BoundEncoder ε} (h : b.Binds width height format bound calls) :
    ∀ c ∈ calls, c.ofStart := by
  cases h with
  | intro plans bind =>
    rw [List.forall_mem_append]
    exact ⟨b.ofStart_planCalls width height,
      ofStart_of_suits (b.backend.bind_boundBy _ _ _).suits⟩

/-- All that a start calls is for a start to call. -/
theorem StartedBy.ofStart {r : Started ε κ} (h : b.StartedBy width height format now calls r) :
    ∀ c ∈ calls, c.ofStart := by
  -- The calls are listed part by part, and each part has its own lemma.
  cases h with
  | misconfigured invalid => simp
  | unacquired valid failed =>
    have hacquire := ofStart_of_suits b.driver.acquire_acquiredBy.suits
    simpa [or_imp, forall_and] using hacquire
  | unplanned valid acquired failed =>
    simpa [or_imp, forall_and] using b.ofStart_planCalls width height
  | @unbound device config e plans failed =>
    have hbind := ofStart_of_suits (b.backend.bind_boundBy device config format.pixelFormat).suits
    simpa [or_imp, forall_and] using And.intro (b.ofStart_planCalls width height) hbind
  | @unpublished before published bound e c binds hpublished =>
    have hstream := ofStart_of_suits hpublished.suits
    simpa [or_imp, forall_and] using
      And.intro binds.ofStart (And.intro hstream bound.ofStart_releaseCalls)
  | @headerless before published bound stream c c' f binds hpublished header =>
    have hstream := ofStart_of_suits hpublished.suits
    simpa [or_imp, forall_and] using
      And.intro binds.ofStart (And.intro hstream bound.ofStart_releaseCalls)
  | @started before published bound stream c c' binds hpublished header =>
    have hstream := ofStart_of_suits hpublished.suits
    simpa [or_imp, forall_and] using And.intro binds.ofStart hstream

end SessionBuilder

end Starting

/-! ## What a launch takes and lets go -/

/-- The handover that a call of a launch is, if it is one: a launch takes the container for its
session, which then takes what it holds. -/
def Call.launchHandover? : Call → Option Handover
  | .openContainer _ (.ok _) => some (.taken .container)
  | c => c.handover?

/-- The handovers among the calls of a launch. -/
def launchHandovers (calls : List Call) : List Handover := calls.filterMap Call.launchHandover?

/-- A start opens no container, so that its handovers are those of its session. -/
theorem Call.ofStart.launchHandover? {c : Call} (h : c.ofStart) :
    c.launchHandover? = c.handover? := by
  cases c with
  | openContainer config answer => simp [ofStart, isRelease, startupPhase?] at h
  | _ => rfl

/-- So are those of a whole start. -/
theorem launchHandovers_of_start {calls : List Call} (h : ∀ c ∈ calls, c.ofStart) :
    launchHandovers calls = handovers calls :=
  List.filterMap_congr fun c hc => (h c hc).launchHandover?

namespace SessionLauncher

variable {ε κ σ : Type} [Encoder ε] [Container κ] [FrameSource σ]

/-- A launch fails with this error: it is the error of the first of its steps that fails. -/
inductive LaunchFails (l : SessionLauncher ε κ σ) (config : SessionConfig) (now : Instant) :
    SessionError → Prop
  /-- The source cannot be opened. -/
  | source {e : CaptureError} (refused : l.openSource l.launches config = .error e) :
      LaunchFails l config now (.capture e)
  /-- The container cannot be opened. -/
  | container {source : σ} {e : MuxError} (opened : l.openSource l.launches config = .ok source)
      (refused : l.openContainer l.launches config = .error e) :
      LaunchFails l config now (.mux e)
  /-- The session does not start. -/
  | session {source : σ} {container c : κ} {e : SessionError}
      (opened : l.openSource l.launches config = .ok source)
      (given : l.openContainer l.launches config = .ok container)
      (failed : ((l.builder container config).start (FrameSource.dimensions source).1
        (FrameSource.dimensions source).2 (FrameSource.format source) now).value = .failed e c) :
      LaunchFails l config now e

variable {l : SessionLauncher ε κ σ} {config : SessionConfig} {now : Instant}

/-- A launch without a source consists of the attempt to open one. -/
theorem launch_sourceless {e : CaptureError} (refused : l.openSource l.launches config = .error e) :
    (l.launch config now).value.1 = .error (.capture e) ∧
      (l.launch config now).happenings = [.call (.openSource config (.error e))] := by
  simp [launch, refused, Except.map, happenings, call, happen]

/-- A launch without a container goes no further, and stops its source. -/
theorem launch_containerless {source : σ} {e : MuxError}
    (opened : l.openSource l.launches config = .ok source)
    (refused : l.openContainer l.launches config = .error e) :
    (l.launch config now).value.1 = .error (.mux e) ∧
      (l.launch config now).calls =
        .openSource config (.ok ()) :: .openContainer config (.error e) :: quitCalls source := by
  have hcalls := (abandon_eq (ε := ε) (κ := κ) source (.mux e)).1
  simp [launch, startWith, opened, refused, Except.map, hcalls]

/-- The answer of a launch with a source and a container is that of the start of its session. -/
theorem launch_given {source : σ} {container : κ}
    (opened : l.openSource l.launches config = .ok source)
    (given : l.openContainer l.launches config = .ok container) :
    (l.launch config now).value.1 =
      match ((l.builder container config).start (FrameSource.dimensions source).1
        (FrameSource.dimensions source).2 (FrameSource.format source) now).value with
      | .session s => .ok ⟨source, s⟩
      | .failed e _ => .error e := by
  unfold builder
  rcases hs : (SessionBuilder.start ⟨l.driver l.launches, l.backend l.launches, container, config⟩
    (FrameSource.dimensions source).1 (FrameSource.dimensions source).2
    (FrameSource.format source) now).value with s | ⟨e, c⟩
  · simp [launch, startWith, opened, given, hs]
  · simp [launch, startWith, opened, given, hs]

/-- A launch gives an error exactly if the first of its steps that fails does. -/
theorem launch_error_iff (e : SessionError) :
    (l.launch config now).value.1 = .error e ↔ l.LaunchFails config now e := by
  constructor
  · intro h
    rcases hs : l.openSource l.launches config with e' | source
    · obtain rfl : SessionError.capture e' = e :=
        Except.error.inj ((launch_sourceless hs).1.symm.trans h)
      exact .source hs
    rcases hc : l.openContainer l.launches config with e' | container
    · obtain rfl : SessionError.mux e' = e :=
        Except.error.inj ((launch_containerless hs hc).1.symm.trans h)
      exact .container hs hc
    rw [launch_given hs hc] at h
    split at h
    · cases h
    · next e' c hfailed =>
      obtain rfl := Except.error.inj h
      exact .session hs hc hfailed
  · intro h
    cases h with
    | source refused => exact (launch_sourceless refused).1
    | container opened refused => exact (launch_containerless opened refused).1
    | session opened given failed => rw [launch_given opened given, failed]

variable {calls : List Call}

/-- A launch that fails with a source at hand ends by stopping it, once, when all that was taken is
let go. -/
theorem LaunchedBy.unwinds {source : σ} {e : SessionError}
    (h : l.LaunchedBy config now calls (.error e))
    (opened : l.openSource l.launches config = .ok source) :
    ∃ before raw taken, calls = before ++ quitCalls source ∧
      (∀ answer, .stopSource answer ∉ before) ∧ taken <+: .container :: holdings raw ∧
      launchHandovers before = taken.map .taken ++ taken.reverse.map .released := by
  cases h with
  | sourceless refused => simp [refused] at opened
  | @containerless source' e opened' refused =>
    obtain rfl := Except.ok.inj (opened'.symm.trans opened)
    refine ⟨[.openSource config (.ok ()), .openContainer config (.error e)], ⟨0⟩, [], rfl, ?_,
      List.nil_prefix, rfl⟩
    simp
  | @unstarted source' container c calls e opened' given started =>
    obtain rfl := Except.ok.inj (opened'.symm.trans opened)
    obtain ⟨raw, held, hprefix, hheld⟩ := started.unwinds
    refine ⟨.openSource config (.ok ()) :: .openContainer config (.ok ()) :: calls, raw,
      .container :: held, rfl, ?_, List.cons_prefix_cons.mpr ⟨rfl, hprefix⟩, ?_⟩
    · intro answer hmem
      have hcalled : Call.stopSource answer ∈ calls := by simpa using hmem
      exact Call.not_ofStart_stopSource answer (started.ofStart _ hcalled)
    · -- The container was taken first, and the start lets it go last.
      have hstart : launchHandovers calls =
          held.map .taken ++ (held.reverse ++ [Held.container]).map .released :=
        (launchHandovers_of_start started.ofStart).trans hheld
      calc launchHandovers (.openSource config (.ok ()) :: .openContainer config (.ok ()) :: calls)
          = .taken .container :: launchHandovers calls := rfl
        _ = (Held.container :: held).map .taken ++
              (Held.container :: held).reverse.map .released := by
            rw [hstart, List.reverse_cons]
            rfl

/-- A launch that succeeds stops no source, and gives the one that it opened. -/
theorem LaunchedBy.unstopped {launched : Launched σ (Session ε κ)}
    (h : l.LaunchedBy config now calls (.ok launched)) :
    l.openSource l.launches config = .ok launched.source ∧
      ∀ answer, .stopSource answer ∉ calls := by
  cases h with
  | @launched source container calls s opened given started =>
    refine ⟨opened, fun answer hmem => ?_⟩
    have hcalled : Call.stopSource answer ∈ calls := by simpa using hmem
    exact Call.not_ofStart_stopSource answer (started.ofStart _ hcalled)

/-- A launch stops a source exactly if it has opened one and fails. -/
theorem stopped_iff :
    (∃ answer, .stopSource answer ∈ (l.launch config now).calls) ↔
      (∃ source, l.openSource l.launches config = .ok source) ∧
        ∃ e, (l.launch config now).value.1 = .error e := by
  have hby := l.launch_launchedBy config now
  constructor
  · rintro ⟨answer, hmem⟩
    rcases hv : (l.launch config now).value.1 with e | launched
    · refine ⟨?_, e, rfl⟩
      rcases hs : l.openSource l.launches config with e' | source
      · -- Without a source there is but one call.
        have hcall := mem_calls.mp hmem
        rw [(launch_sourceless hs).2] at hcall
        simp at hcall
      · exact ⟨source, rfl⟩
    · rw [hv] at hby
      exact absurd hmem (hby.unstopped.2 answer)
  · rintro ⟨⟨source, opened⟩, e, failed⟩
    rw [failed] at hby
    obtain ⟨before, raw, taken, hcalls, -⟩ := hby.unwinds opened
    refine ⟨(FrameSource.stop source).1, ?_⟩
    rw [hcalls]
    exact List.mem_append_right _ (by simp [quitCalls])

/-- Whatever the source, the container, the driver and the encoder library answer, a launch stops a
source exactly if it has opened one and fails. It does so once, at its end, when the container and
all that its session had taken are let go, the last taken first. It gives the error of the first
step to fail, whatever the source says to being stopped. Without a source nothing else is done;
without a container no device is asked for; and a launch that succeeds gives the source that was
opened. -/
theorem launch_unwinds (l : SessionLauncher ε κ σ) (config : SessionConfig) (now : Instant) :
    let launched := l.launch config now
    ((∃ answer, .stopSource answer ∈ launched.calls) ↔
        (∃ source, l.openSource l.launches config = .ok source) ∧
          ∃ e, launched.value.1 = .error e) ∧
      (∀ source e, l.openSource l.launches config = .ok source → launched.value.1 = .error e →
        ∃ before raw taken, launched.calls = before ++ quitCalls source ∧
          (∀ answer, .stopSource answer ∉ before) ∧ taken <+: .container :: holdings raw ∧
          launchHandovers before = taken.map .taken ++ taken.reverse.map .released) ∧
      (∀ e, launched.value.1 = .error e ↔ l.LaunchFails config now e) ∧
      (∀ source s, launched.value.1 = .ok ⟨source, s⟩ →
        l.openSource l.launches config = .ok source) ∧
      (∀ e, l.openSource l.launches config = .error e →
        launched.happenings = [.call (.openSource config (.error e))]) ∧
      ∀ source e, l.openSource l.launches config = .ok source →
        l.openContainer l.launches config = .error e →
        launched.calls =
          .openSource config (.ok ()) :: .openContainer config (.error e) :: quitCalls source := by
  intro launched
  have hby : l.LaunchedBy config now launched.calls launched.value.1 :=
    l.launch_launchedBy config now
  refine ⟨stopped_iff, ?_, launch_error_iff, ?_, fun e refused => (launch_sourceless refused).2,
    fun source e opened refused => (launch_containerless opened refused).2⟩
  · intro source e opened failed
    rw [failed] at hby
    exact hby.unwinds opened
  · intro source s hvalue
    rw [hvalue] at hby
    exact hby.unstopped.1

/-- A source of small frames that objects to being stopped. -/
def stubbornSource : ScriptedSource := ⟨64, 48, .bgra, [], some (.sourceLost "gone")⟩

/-- A launcher with such a source, whose encoder library has no frame pools. -/
def poollessLauncher : SessionLauncher ScriptedEncoder MemoryContainer ScriptedSource :=
  { driver := fun _ => sampleBuilder.driver
    backend := fun _ =>
      { sampleBuilder.backend with openPool := fun _ _ => .error ⟨-12, "out of memory"⟩ }
    openSource := fun _ _ => .ok stubbornSource
    openContainer := fun _ _ => .ok sampleBuilder.container }

/-- It launches nothing for want of a pool, and stops its source after all else is let go. -/
theorem launch_unwinds_poolless :
    (poollessLauncher.launch {} ⟨0⟩).value.1 =
        .error (.startup .bindFrames (.encoder (.poolFailed ⟨-12, "out of memory"⟩))) ∧
      ∃ before raw taken, (poollessLauncher.launch {} ⟨0⟩).calls =
          before ++ [.stopSource (.error (.sourceLost "gone")), .release .source] ∧
        (∀ answer, .stopSource answer ∉ before) ∧ taken <+: .container :: holdings raw ∧
        launchHandovers before = taken.map .taken ++ taken.reverse.map .released := by
  obtain ⟨-, hunwinds, hfails, -⟩ := launch_unwinds poollessLauncher {} ⟨0⟩
  have hvalue : (poollessLauncher.launch {} ⟨0⟩).value.1 =
      .error (.startup .bindFrames (.encoder (.poolFailed ⟨-12, "out of memory"⟩))) :=
    (hfails _).mpr (.session rfl rfl rfl)
  exact ⟨hvalue, hunwinds stubbornSource _ rfl hvalue⟩

end SessionLauncher

end Framecast

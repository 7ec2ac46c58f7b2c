import Framecast.Engine.Launcher
import Framecast.Proofs.Tidings

/-!
# What a session announces

A session announces the phases of its start up to the one that fails, and all of them if none does
(`tidings_start`). It announces the phases of its end in order, all of them unless an overflow cuts
the flush short (`tidings_finish`). Nothing else about a session is tidings: what its collaborators
do is quiet.
-/

namespace Framecast

open Journaled

variable {ε κ : Type}

/-! ## The collaborators -/

/-- Letting go of a device context is no tiding. -/
@[simp] theorem DeviceContext.tidings_release (c : DeviceContext) : c.release.tidings = [] := by
  unfold DeviceContext.release
  cases h : c.driver.destroyContext c.raw <;> simp

/-- Letting go of a pool is no tiding. -/
@[simp] theorem FramePool.tidings_intoDevice (p : FramePool) : p.intoDevice.tidings = [] := rfl

/-- Letting go of a pool and its device context is no tiding. -/
@[simp] theorem FramePool.tidings_release (p : FramePool) : p.release.tidings = [] := by
  simp [FramePool.release]

/-- Acquiring a device context is no tiding. -/
@[simp] theorem Driver.tidings_acquire (d : Driver) : d.acquire.tidings = [] := by
  rcases hi : d.init with f | u
  · simp [acquire, hi]
  rcases hn : d.deviceCount with f | n
  · simp [acquire, hi, hn]
  by_cases hz : n = 0
  · simp [acquire, hi, hn, hz]
  rcases hd : d.device deviceOrdinal with f | handle
  · simp [acquire, hi, hn, hz, hd]
  rcases hc : d.createContext handle .auto with f | raw
  · simp [acquire, hi, hn, hz, hd, hc]
  · simp [acquire, hi, hn, hz, hd, hc]

/-- Looking up implementations is no tiding. -/
@[simp] theorem tidings_firstRegistered (has : String → Bool) (names : List String) :
    (firstRegistered has names).tidings = [] := by
  induction names with
  | nil => rfl
  | cons name names ih => cases hn : has name <;> simp [firstRegistered, hn, ih]

/-- Planning an encoder is no tiding. -/
@[simp] theorem tidings_configure (has : String → Bool) (r : EncoderRequest) :
    (configure has r).tidings = [] := by
  cases hu : r.isUsable with
  | false => simp [configure, hu]
  | true =>
    rcases hs : (firstRegistered has r.family.candidates).value with _ | name <;>
      simp [configure, hu, selectEncoder, hs]

/-- Binding an encoder is no tiding. -/
@[simp] theorem Backend.tidings_bind (b : Backend ε) [Encoder ε] (device : DeviceContext)
    (config : EncoderConfig) (native : PixelFormat) :
    (b.bind device config native).tidings = [] := by
  have htry : (b.tryBind device config native).tidings = [] := by
    unfold tryBind
    rw [tidings_within]
    split
    · rfl
    · rcases hp : b.openPool device.device
        ⟨config.pixelFormat, native, config.width, config.height⟩ with f | format
      · simp [hp]
      · by_cases hf : format = config.pixelFormat
        · rcases b.openEncoder config with f | encoder <;> simp [hp, hf]
        · simp [hp, hf]
  rcases hv : (b.tryBind device config native).value with bound | e | e <;>
    simp [bind, htry, hv]

/-- Publishing a stream is no tiding. -/
@[simp] theorem tidings_publish [Container κ] (c : κ) (config : EncoderConfig)
    (extradata : Option ByteArray) : (publish c config extradata).tidings = [] := by
  cases hb : config.timeBase.isPositive with
  | false => simp [publish, hb]
  | true =>
    rcases ha : Container.addStream c (config.streamSpec extradata) with ⟨_ | index, c'⟩
    · simp [publish, hb, ha]
    · by_cases hi : index = Container.streamCount c <;> simp [publish, hb, ha, hi]

/-- Letting go of an encoder and what it is bound to is no tiding. -/
@[simp] theorem BoundEncoder.tidings_release (b : BoundEncoder ε) : b.release.tidings = [] := by
  simp [BoundEncoder.release]

variable [Encoder ε] [Container κ]

/-- Handing a frame to the encoder is no tiding. -/
@[simp] theorem BoundEncoder.tidings_submit (b : BoundEncoder ε) (frame : SurfaceFrame) :
    (b.submit frame).tidings = [] := by
  unfold BoundEncoder.submit
  dsimp only
  split
  · rfl
  · split
    · simp
    · split
      · rfl
      · rcases hs : Encoder.sendFrame b.encoder frame with ⟨_ | _, e⟩ <;> simp

/-- Signalling the end of input is no tiding. -/
@[simp] theorem BoundEncoder.tidings_flush (b : BoundEncoder ε) : b.flush.tidings = [] := by
  unfold BoundEncoder.flush
  split
  · rfl
  · rcases hs : Encoder.sendEnd b.encoder with ⟨_ | _, e⟩ <;> simp

/-- Writing a packet is no tiding. -/
@[simp] theorem Outlet.tidings_write (o : Outlet κ) (stream : Nat) (stamp : Int64) (p : Packet) :
    (o.write stream stamp p).tidings = [] := by
  unfold Outlet.write
  split
  · rfl
  · simp only [tidings_bind, tidings_call, List.nil_append]
    split <;> simp

/-- Pulling packets is no tiding. The induction is on the encoder's backlog. -/
@[simp] theorem tidings_pull (stream : Nat) (stamp : Int64) (e : ε) (o : Outlet κ) :
    (pull stream stamp e o).tidings = [] := by
  induction hb : Encoder.backlog e using Nat.strongRecOn generalizing e o with
  | ind n ih =>
    rw [pull]
    split
    · rename_i p e' hr
      have hlt : Encoder.backlog e' < n := hb ▸ Encoder.backlog_receive e p e' hr
      rcases hw : (o.write stream stamp p).value with ⟨x | u, o'⟩
      · simp [hw]
      · simp [hw, ih _ hlt e' o' rfl]
    all_goals simp

/-- A drain cycle is no tiding. -/
@[simp] theorem PacketDrain.tidings_cycle (d : PacketDrain) (e : ε) (timeBase : Rational)
    (stream : OutputStream) (pts : Int64) (c : κ) :
    (d.cycle e timeBase stream pts c).tidings = [] := by
  unfold PacketDrain.cycle
  split
  · rfl
  · simp only [tidings_bind, tidings_pull, List.nil_append]
    split <;> rfl

namespace Session

/-- Draining after a frame is no tiding. -/
@[simp] theorem tidings_drainAfter (s : Session ε κ) (pts : Int64) :
    (s.drainAfter pts).tidings = [] := by
  simp only [drainAfter, tidings_bind, PacketDrain.tidings_cycle, List.nil_append]
  split <;> rfl

/-- Submitting a frame is no tiding. -/
@[simp] theorem tidings_submit (s : Session ε κ) (f : CapturedFrame) :
    (s.submit f).tidings = [] := by
  have hat : ∀ pts, (s.submitAt f pts).tidings = [] := by
    intro pts
    simp only [submitAt, tidings_bind, BoundEncoder.tidings_submit, List.nil_append]
    split
    · rfl
    · exact tidings_drainAfter _ _
  unfold submit
  split
  · rfl
  · rfl
  · split
    · rfl
    · split
      · rfl
      · exact hat _

omit [Encoder ε] [Container κ] in
/-- Letting go of a session is no tiding. -/
@[simp] theorem tidings_release (s : Session ε κ) : s.release.tidings = [] := by
  simp [Session.release]

/-! ## The end of a session -/

/-- Announcing a phase of the end is that tiding. -/
@[simp] theorem tidings_announceEnd (phase : ShutdownPhase) :
    (announceEnd phase).tidings = [.shutdown phase] := by
  simp [announceEnd]

/-- Flushing is no tiding but for the phase that it is announced as. -/
@[simp] theorem tidings_flush (s : Session ε κ) : s.flush.tidings = [] := by
  have hreport : ∀ r, (reportFlush r).tidings = [] := by
    intro r
    rcases r with e | ⟨_, _, _, _ | _ | _⟩ <;> rfl
  unfold flush
  split
  · rfl
  · rcases hf : s.bound.flush.value with ⟨e | u, bound⟩
    · simp [hf, hreport]
    · rcases hd : ({ s with bound }.drainAfter (s.lastPts.getD 0)).value with
        ⟨x | e | report, s'⟩ <;>
        simp [hf, hd, hreport]

omit [Encoder ε] in
/-- Writing the trailer is no tiding but for the phase that it is announced as. -/
@[simp] theorem tidings_endOutput (s : Session ε κ) : s.endOutput.tidings = [] := by
  unfold endOutput
  rcases Container.writeTrailer s.container with ⟨_ | _, c⟩ <;> simp

omit [Encoder ε] in
/-- The last phases are announced in order. -/
@[simp] theorem tidings_releaseBound (b : BoundEncoder ε) :
    (releaseBound b).tidings =
      [.shutdown .releaseEncoder, .shutdown .releaseFramePool, .shutdown .releaseDevice] := by
  simp [releaseBound]

/-- The phases that an end goes through in the session, after its capture was stopped: all that are
left, unless an overflow cuts the first one short. -/
def endPhases {α : Type} : Except Overflow α → List ShutdownPhase
  | .error _ => [.flushEncoder]
  | .ok _ => [.flushEncoder, .writeTrailer, .releaseEncoder, .releaseFramePool, .releaseDevice]

/-- A session that is finished announces the phases of its end, and nothing else. -/
theorem tidings_finish (s : Session ε κ) (now : Instant) :
    (s.finish now).tidings = (endPhases (s.finish now).value.result).map .shutdown := by
  unfold finish
  rcases hf : s.flush.value with ⟨x | failure, s'⟩
  · simp [hf, endPhases]
  · simp [hf, endPhases]

end Session

/-! ## The start of a session -/

/-- The phases up to this one, in order. -/
def StartupPhase.upTo (phase : StartupPhase) : List StartupPhase :=
  all.take (all.idxOf phase + 1)

/-- The phases that a start has gone through when it failed. -/
def SessionError.startPhases : SessionError → List StartupPhase
  | .startup phase _ => phase.upTo
  | _ => []

/-- The phases that a start has gone through, failed or not. -/
def Started.phases : Started ε κ → List StartupPhase
  | .session _ => StartupPhase.all
  | .failed e _ => e.startPhases

namespace SessionBuilder

/-- Announcing a phase of the start is that tiding. -/
@[simp] theorem tidings_announce (phase : StartupPhase) (fields : List Field) :
    (announce phase fields).tidings = [.startup phase] := by
  simp [announce]

omit [Encoder ε] [Container κ] in
/-- Giving up is no tiding. -/
@[simp] theorem tidings_abandon (container : κ) (phase : StartupPhase) (e : StageError) :
    (abandon container phase e : Journaled (Started ε κ)).tidings = [] := by
  simp [abandon]

/-- The last two phases of a start are announced until one fails. -/
theorem tidings_openOutput (b : SessionBuilder ε κ) (bound : BoundEncoder ε) (now : Instant) :
    [.acquireDevice, .configureEncoder, .bindFrames].map Happening.startup ++
        (b.openOutput bound now).tidings =
      (b.openOutput bound now).value.phases.map .startup := by
  unfold openOutput
  rcases hp : (publish b.container bound.config (Encoder.extradata bound.encoder)).value with
    ⟨e | stream, c⟩
  · simp [hp, abandon, Started.phases, SessionError.startPhases]
    rfl
  · rcases hh : Container.writeHeader c with ⟨f | u, c'⟩
    · simp [hp, hh, abandon, Started.phases, SessionError.startPhases]
      rfl
    · simp [hp, hh, Started.phases, StartupPhase.all]

/-- A start announces the phases that it goes through, and nothing else. -/
theorem tidings_start (b : SessionBuilder ε κ) (width height : UInt32) (format : SurfaceFormat)
    (now : Instant) :
    (b.start width height format now).tidings =
      (b.start width height format now).value.phases.map .startup := by
  unfold start
  rw [tidings_within, value_within]
  rcases hv : b.config.validate with e | u
  · simp [Started.phases, SessionError.startPhases]
  rcases ha : b.driver.acquire.value with e | device
  · simp [ha, abandon, Started.phases, SessionError.startPhases]
    rfl
  rcases hc : (configure b.backend.hasEncoder (b.request width height)).value with e | config
  · simp [ha, hc, abandon, Started.phases, SessionError.startPhases]
    rfl
  rcases hb : (b.backend.bind device config format.pixelFormat).value with e | bound
  · simp [ha, hc, hb, abandon, Started.phases, SessionError.startPhases]
    rfl
  · have h := b.tidings_openOutput bound now
    simpa [ha, hc, hb] using h

end SessionBuilder

namespace SessionLauncher

variable {σ : Type} [FrameSource σ]

/-- The phases that a launch has gone through, failed or not. -/
def launchPhases {α : Type} : Except SessionError α → List StartupPhase
  | .ok _ => StartupPhase.all
  | .error e => e.startPhases

omit [Encoder ε] [Container κ] in
/-- Giving a source back is no tiding. -/
@[simp] theorem tidings_abandon (source : σ) (e : SessionError) :
    (abandon source e : Journaled (Except SessionError (Launched σ (Session ε κ)))).tidings =
      [] := by
  unfold abandon
  rcases FrameSource.stop source with ⟨_ | _, _⟩ <;> simp

omit [Encoder ε] [Container κ] in
/-- Giving a source back leaves the failure. -/
@[simp] theorem value_abandon (source : σ) (e : SessionError) :
    (abandon source e : Journaled (Except SessionError (Launched σ (Session ε κ)))).value =
      .error e := by
  unfold abandon
  rcases FrameSource.stop source with ⟨_ | _, _⟩ <;> simp

/-- A launch announces the phases that the start of the session goes through, and nothing else. -/
theorem tidings_launch (l : SessionLauncher ε κ σ) (config : SessionConfig) (now : Instant) :
    (l.launch config now).tidings =
      (launchPhases (l.launch config now).value.1).map .startup := by
  rcases hs : l.openSource l.launches config with e | source
  · simp [launch, hs, launchPhases, SessionError.startPhases]
  rcases hc : l.openContainer l.launches config with e | container
  · simp [launch, startWith, hs, hc, launchPhases, SessionError.startPhases]
  have h := SessionBuilder.tidings_start
    ⟨l.driver l.launches, l.backend l.launches, container, config⟩
    (FrameSource.dimensions source).1 (FrameSource.dimensions source).2 (FrameSource.format source)
    now
  rcases hv : (SessionBuilder.start
    ⟨l.driver l.launches, l.backend l.launches, container, config⟩
    (FrameSource.dimensions source).1 (FrameSource.dimensions source).2 (FrameSource.format source)
    now).value with s | ⟨e, c⟩
  · rw [hv] at h
    simpa [launch, startWith, hs, hc, hv, launchPhases, Started.phases] using h
  · rw [hv] at h
    simpa [launch, startWith, hs, hc, hv, launchPhases, Started.phases] using h

end SessionLauncher

end Framecast

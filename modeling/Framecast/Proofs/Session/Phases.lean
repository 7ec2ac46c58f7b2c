import Framecast.Proofs.Session.Announced
import Framecast.Proofs.Session.Started

/-!
# The phases of a start

Each phase of a start asks its own collaborators, and asks them nothing before it is announced. So
the journal of a start is read with a phase at hand, the one that was announced last, and every
operation in it is of that phase, or lets something go (`Phased`). What a collaborator is asked
suits its phase, and the phases follow one after the other, so that a start that fails in one of
them has asked for nothing of those to come (`startup_phases`).
-/

namespace Framecast

open Journaled

/-! ## Operations and their phases -/

/-- The phase of a start that an operation belongs to. -/
def Call.startupPhase? : Call → Option StartupPhase
  | .driverInit _ | .deviceCount _ | .resolveDevice _ _ | .createContext _ _ _ =>
    some .acquireDevice
  | .hasEncoder _ _ => some .configureEncoder
  | .openPool _ _ _ | .openEncoder _ _ => some .bindFrames
  | .addStream _ _ => some .publishStream
  | .writeHeader _ => some .writeHeader
  | _ => none

/-- It lets something go. -/
def Call.isRelease : Call → Bool
  | .destroyContext _ _ | .release _ => true
  | _ => false

/-- An operation may be called in a phase: it belongs to it, or lets something go. -/
def Call.suits (c : Call) (phase : Option StartupPhase) : Prop :=
  c.isRelease = true ∨ c.startupPhase?.isSome = true ∧ c.startupPhase? = phase

/-- Letting go of a resource suits every phase. -/
@[simp] theorem Call.suits_release (r : Resource) (phase : Option StartupPhase) :
    (Call.release r).suits phase := .inl rfl

/-- So does letting go of a device context. -/
@[simp] theorem Call.suits_destroyContext (raw : RawContext) (answer : Except Fault Unit)
    (phase : Option StartupPhase) : (Call.destroyContext raw answer).suits phase := .inl rfl

/-- What only lets something go belongs to no phase. -/
theorem Call.startupPhase?_of_isRelease {c : Call} (h : c.isRelease = true) :
    c.startupPhase? = none := by
  cases c with
  | destroyContext raw answer => rfl
  | release r => rfl
  | _ => cases h

/-- The phase of a start that is announced. -/
def Happening.startup? : Happening → Option StartupPhase
  | .startup phase => some phase
  | _ => none

/-- What happened, in order. -/
def Journaled.happenings {α : Type} (x : Journaled α) : List Happening := x.entries.map Entry.what

/-- The phase at hand, some things having happened: the one announced last. -/
def phaseAfter (phase : Option StartupPhase) (hs : List Happening) : Option StartupPhase :=
  (hs.filterMap Happening.startup?).getLast?.or phase

/-- Every operation suits the phase at hand when it is called. -/
def Phased (phase : Option StartupPhase) (hs : List Happening) : Prop :=
  ∀ earlier c later, hs = earlier ++ .call c :: later → c.suits (phaseAfter phase earlier)

section

variable {phase : Option StartupPhase} {hs more : List Happening} {c : Call} {α β : Type}
  {x : Journaled α} {f : α → Journaled β}

/-- Where nothing is announced the phase stays. -/
theorem phaseAfter_of_silent (silent : hs.filter Happening.isTiding = []) :
    phaseAfter phase hs = phase := by
  have hnone : hs.filterMap Happening.startup? = [] := by
    refine List.filterMap_eq_nil_iff.mpr fun h hh => ?_
    have htold := List.filter_eq_nil_iff.mp silent h hh
    cases h with
    | startup phase => exact absurd rfl htold
    | _ => rfl
  rw [phaseAfter, hnone]
  rfl

/-- What happens later goes on from the phase at hand. -/
theorem phaseAfter_append : phaseAfter phase (hs ++ more) =
    phaseAfter (phaseAfter phase hs) more := by
  simp [phaseAfter, List.getLast?_append, Option.or_assoc]

/-- If none was at hand before, it was announced since. -/
theorem announced_of_phaseAfter {p : StartupPhase} (h : phaseAfter none hs = some p) :
    .startup p ∈ hs := by
  rw [phaseAfter, Option.or_none] at h
  obtain ⟨g, hg, hstartup⟩ := List.mem_filterMap.mp (List.mem_of_getLast? h)
  cases g with
  | startup q =>
    obtain rfl := Option.some.inj hstartup
    exact hg
  | _ => cases hstartup

/-- One thing happens after the other. -/
theorem Phased.append (first : Phased phase hs) (second : Phased (phaseAfter phase hs) more) :
    Phased phase (hs ++ more) := by
  intro earlier c later h
  refine forall_split_append (P := fun earlier h => ∀ c, h = .call c →
    c.suits (phaseAfter phase earlier)) ?_ ?_ earlier _ later h c rfl
  · rintro earlier _ later h c rfl
    exact first earlier c later h
  · rintro earlier _ later h c rfl
    rw [phaseAfter_append]
    exact second earlier c later h

/-- Where nothing is announced it is the same phase for every operation. -/
theorem phased_of_silent (silent : hs.filter Happening.isTiding = [])
    (suits : ∀ c, .call c ∈ hs → c.suits phase) : Phased phase hs := by
  intro earlier c later h
  -- Nothing was announced before the call either.
  rw [h, List.filter_append] at silent
  rw [phaseAfter_of_silent (List.append_eq_nil_iff.mp silent).1]
  exact suits c (by simp [h])

/-- A call is one of the things that happened. -/
theorem Journaled.mem_calls : c ∈ x.calls ↔ .call c ∈ x.happenings := by
  unfold calls happenings
  rw [List.mem_filterMap, List.mem_map]
  refine exists_congr fun e => and_congr_right fun _ => ?_
  cases e.what <;> simp

/-- A span leaves what happens within it alone. -/
theorem Journaled.happenings_within (s : Span) : (x.within s).happenings = x.happenings := by
  unfold happenings within
  rw [List.map_map]
  congr 1
  funext e
  by_cases h : e.aside <;> simp [h]

/-- Work that announces nothing, and calls what suits the phase at hand, stays in it. -/
theorem phased_of_calls (silent : x.tidings = []) (suits : ∀ c ∈ x.calls, c.suits phase) :
    Phased phase x.happenings :=
  phased_of_silent silent fun c hc => suits c (mem_calls.mpr hc)

/-- So does what comes after it. -/
theorem Phased.after_calls (silent : x.tidings = []) (suits : ∀ c ∈ x.calls, c.suits phase)
    (rest : Phased phase (f x.value).happenings) : Phased phase (x >>= f).happenings := by
  have hphase : phaseAfter phase x.happenings = phase := phaseAfter_of_silent silent
  have happened : (x >>= f).happenings = x.happenings ++ (f x.value).happenings := by
    simp [happenings]
  rw [happened]
  exact (phased_of_calls silent suits).append (hphase.symm ▸ rest)

/-- A phase that is announced is the one at hand. -/
theorem Phased.after_announce {next : StartupPhase} {fields : List Field}
    {f : Unit → Journaled β} (rest : Phased (some next) (f ()).happenings) :
    Phased phase (announce next fields >>= f).happenings := by
  have happened : (announce next fields >>= f).happenings =
      (announce next fields).happenings ++ (f ()).happenings := by
    simp [happenings]
  have uncalled : Phased phase (announce next fields).happenings := by
    intro earlier c later h
    have hmem : .call c ∈ (announce next fields).happenings := by simp [h]
    simp [announce, happenings, happen, say] at hmem
  rw [happened]
  exact uncalled.append rest

end

/-! ## The collaborators -/

variable {ε κ : Type} [Encoder ε] [Container κ]

/-- A driver is asked for a device context in the first phase. -/
theorem Driver.AcquiredBy.suits {d : Driver} {calls : List Call}
    {r : Except DeviceError DeviceContext} (h : d.AcquiredBy calls r) :
    ∀ c ∈ calls, c.suits (some .acquireDevice) := by
  cases h <;> simp [Call.suits, Call.startupPhase?]

/-- Implementations are looked up in the second one. -/
theorem configure_suits (has : String → Bool) (r : EncoderRequest) :
    ∀ c ∈ (configure has r).calls, c.suits (some .configureEncoder) := by
  intro c hc
  obtain ⟨name, rfl⟩ := lookups_configure has r c hc
  exact .inr ⟨rfl, rfl⟩

omit [Encoder ε] in
/-- An encoder is bound in the third one, and what a failed binding has taken is let go. -/
theorem Backend.BoundBy.suits {b : Backend ε} {device : DeviceContext} {config : EncoderConfig}
    {native : PixelFormat} {calls : List Call} {r : Except EncoderError (BoundEncoder ε)}
    (h : b.BoundBy device config native calls r) : ∀ c ∈ calls, c.suits (some .bindFrames) := by
  cases h <;> simp [Call.suits, Call.startupPhase?, Call.isRelease]

/-- A stream is published in the fourth one. -/
theorem PublishedBy.suits {c : κ} {config : EncoderConfig} {extradata : Option ByteArray}
    {calls : List Call} {r : Except MuxError OutputStream × κ}
    (h : PublishedBy c config extradata calls r) :
    ∀ c ∈ calls, c.suits (some .publishStream) := by
  cases h <;> simp [Call.suits, Call.startupPhase?]

/-- A stream that is published in one of the ways is what publishing gives. -/
theorem PublishedBy.value_eq {c : κ} {config : EncoderConfig} {extradata : Option ByteArray}
    {calls : List Call} {r : Except MuxError OutputStream × κ}
    (h : PublishedBy c config extradata calls r) : (publish c config extradata).value = r := by
  cases h <;> simp [publish, *]

namespace SessionBuilder

/-- An encoder is only bound with a configuration that can be used. -/
theorem Binds.valid {b : SessionBuilder ε κ} {width height : UInt32} {format : SurfaceFormat}
    {bound : BoundEncoder ε} {calls : List Call} (h : b.Binds width height format bound calls) :
    b.config.validate = .ok () := by
  obtain ⟨_, _, hplans, -⟩ := h.bound
  exact hplans.valid

variable {phase : Option StartupPhase}

omit [Encoder ε] [Container κ] in
/-- Giving up lets the container go, and nothing else. -/
theorem phased_abandon (container : κ) (failed : StartupPhase) (e : StageError) :
    Phased phase (abandon container failed e : Journaled (Started ε κ)).happenings :=
  phased_of_calls (tidings_abandon container failed e) (by simp [abandon])

/-- The last two phases of a start keep to the order. -/
theorem openOutput_phased (b : SessionBuilder ε κ) (bound : BoundEncoder ε) (now : Instant) :
    Phased phase (b.openOutput bound now).happenings := by
  unfold openOutput
  refine .after_announce (.after_calls (tidings_publish _ _ _) (publish_publishedBy _ _ _).suits ?_)
  rcases (publish b.container bound.config (Encoder.extradata bound.encoder)).value with
    ⟨e | stream, c⟩
  · exact .after_calls bound.tidings_release
      (by simp [BoundEncoder.releaseCalls]) (phased_abandon _ _ _)
  · refine .after_announce ?_
    rcases Container.writeHeader c with ⟨f | u, c'⟩
    · refine .after_calls rfl ?_ (.after_calls bound.tidings_release ?_ (phased_abandon _ _ _))
      · simp [Call.suits, Call.startupPhase?]
      · simp [BoundEncoder.releaseCalls]
    · refine .after_calls rfl ?_ (phased_of_calls rfl ?_)
      · simp [Call.suits, Call.startupPhase?]
      · simp

/-- The phases of a start keep to their order. -/
theorem start_phased (b : SessionBuilder ε κ) (width height : UInt32) (format : SurfaceFormat)
    (now : Instant) : Phased none (b.start width height format now).happenings := by
  -- One split for each phase, in their order. What a failed phase lets go suits any phase.
  unfold start
  rw [happenings_within]
  rcases b.config.validate with e | u
  · exact phased_of_calls rfl (by simp)
  refine .after_announce
    (.after_calls b.driver.tidings_acquire b.driver.acquire_acquiredBy.suits ?_)
  rcases b.driver.acquire.value with e | device
  · exact phased_abandon _ _ _
  refine .after_announce (.after_calls (tidings_configure _ _) (configure_suits _ _) ?_)
  rcases (configure b.backend.hasEncoder (b.request width height)).value with e | config
  · exact .after_calls device.tidings_release (by simp) (phased_abandon _ _ _)
  refine .after_announce (.after_calls (b.backend.tidings_bind _ _ _)
    (b.backend.bind_boundBy _ _ _).suits ?_)
  rcases (b.backend.bind device config format.pixelFormat).value with e | bound
  · exact phased_abandon _ _ _
  · exact b.openOutput_phased bound now

/-! ## How a start ends -/

/-- The stage of a phase fails with this error, those before it having succeeded. -/
inductive StageFails (b : SessionBuilder ε κ) (width height : UInt32) (format : SurfaceFormat) :
    StartupPhase → StageError → Prop
  /-- There is no device context. -/
  | device {e : DeviceError} (failed : b.driver.acquire.value = .error e) :
      StageFails b width height format .acquireDevice (.device e)
  /-- There is no encoder for the request. -/
  | encoder {device : DeviceContext} {e : EncoderError}
      (acquired : b.driver.acquire.value = .ok device)
      (failed : (configure b.backend.hasEncoder (b.request width height)).value = .error e) :
      StageFails b width height format .configureEncoder (.encoder e)
  /-- The encoder is not bound. -/
  | frames {device : DeviceContext} {config : EncoderConfig} {e : EncoderError}
      (plans : b.Plans width height device config)
      (failed : (b.backend.bind device config format.pixelFormat).value = .error e) :
      StageFails b width height format .bindFrames (.encoder e)
  /-- The stream is not published. -/
  | stream {before : List Call} {bound : BoundEncoder ε} {e : MuxError} {c : κ}
      (binds : b.Binds width height format bound before)
      (failed : (publish b.container bound.config (Encoder.extradata bound.encoder)).value =
        (.error e, c)) :
      StageFails b width height format .publishStream (.mux e)
  /-- The header is not written. -/
  | header {before : List Call} {bound : BoundEncoder ε} {stream : OutputStream} {c c' : κ}
      {f : Fault} (binds : b.Binds width height format bound before)
      (published : (publish b.container bound.config (Encoder.extradata bound.encoder)).value =
        (.ok stream, c))
      (failed : Container.writeHeader c = (.error f, c')) :
      StageFails b width height format .writeHeader (.mux (.headerFailed f))

/-- A start is misconfigured, gives a session, or fails in a phase because its stage does. -/
theorem StartedBy.stage_cases {b : SessionBuilder ε κ} {width height : UInt32}
    {format : SurfaceFormat} {now : Instant} {calls : List Call} {r : Started ε κ}
    (h : b.StartedBy width height format now calls r) :
    (∃ e, b.config.validate = .error e ∧ r = .failed (.config e) b.container ∧
        calls = [.release .container]) ∨
      b.config.validate = .ok () ∧ ((∃ s, r = .session s) ∨
        ∃ phase e c, r = .failed (.startup phase e) c ∧
          b.StageFails width height format phase e) := by
  cases h with
  | misconfigured invalid => exact .inl ⟨_, invalid, rfl, rfl⟩
  | unacquired valid failed => exact .inr ⟨valid, .inr ⟨_, _, _, rfl, .device failed⟩⟩
  | unplanned valid acquired failed =>
    exact .inr ⟨valid, .inr ⟨_, _, _, rfl, .encoder acquired failed⟩⟩
  | unbound plans failed => exact .inr ⟨plans.valid, .inr ⟨_, _, _, rfl, .frames plans failed⟩⟩
  | unpublished binds published =>
    exact .inr ⟨binds.valid, .inr ⟨_, _, _, rfl, .stream binds published.value_eq⟩⟩
  | headerless binds published failed =>
    exact .inr ⟨binds.valid, .inr ⟨_, _, _, rfl, .header binds published.value_eq failed⟩⟩
  | started binds published written => exact .inr ⟨binds.valid, .inl ⟨_, rfl⟩⟩

/-- Of the operations called, each belongs to a phase that was announced, or lets something go. -/
theorem mem_phases_of_called {b : SessionBuilder ε κ} {width height : UInt32}
    {format : SurfaceFormat} {now : Instant} {c : Call} {phase : StartupPhase}
    (called : c ∈ (b.start width height format now).calls) (hphase : c.startupPhase? = some phase) :
    phase ∈ (b.start width height format now).value.phases := by
  obtain ⟨earlier, later, hsplit⟩ := List.append_of_mem (mem_calls.mp called)
  have hannounced : .startup phase ∈ (b.start width height format now).happenings := by
    rcases b.start_phased width height format now earlier c later hsplit with hrelease | ⟨-, hlast⟩
    · rw [Call.startupPhase?_of_isRelease hrelease] at hphase
      cases hphase
    · rw [hsplit]
      exact List.mem_append_left _ (announced_of_phaseAfter (hlast.symm.trans hphase))
  have htold : .startup phase ∈ (b.start width height format now).tidings :=
    List.mem_filter.mpr ⟨hannounced, rfl⟩
  rw [tidings_start] at htold
  obtain ⟨other, hmem, hother⟩ := List.mem_map.mp htold
  exact Happening.startup.inj hother ▸ hmem

/-- A start announces its phases in order, each before anything is called that belongs to it: all of
them if it gives a session, none if it is refused for its configuration, and otherwise those up to
the one that it fails in, for which the stage of that phase is to blame. -/
theorem startup_phases (b : SessionBuilder ε κ) (width height : UInt32) (format : SurfaceFormat)
    (now : Instant) :
    let ran := b.start width height format now
    ((∃ e, b.config.validate = .error e ∧ ran.value = .failed (.config e) b.container ∧
          ran.tidings = [] ∧ ran.calls = [.release .container]) ∨
        b.config.validate = .ok () ∧ ((∃ s, ran.value = .session s ∧
            ran.tidings =
              [.acquireDevice, .configureEncoder, .bindFrames, .publishStream, .writeHeader].map
                .startup) ∨
          ∃ phase e c, ran.value = .failed (.startup phase e) c ∧
            b.StageFails width height format phase e ∧
            ran.tidings = phase.upTo.map .startup ∧
            ∀ call ∈ ran.calls, ∀ other, call.startupPhase? = some other → other ∈ phase.upTo)) ∧
      Phased none ran.happenings := by
  intro ran
  -- The outcome tells what was announced, and how it came about tells which stage failed.
  have htold : ran.tidings = ran.value.phases.map .startup :=
    b.tidings_start width height format now
  refine ⟨?_, b.start_phased width height format now⟩
  rcases (b.start_startedBy width height format now).stage_cases with
    ⟨e, invalid, hvalue, hcalls⟩ | ⟨valid, ⟨s, hvalue⟩ | ⟨phase, e, c, hvalue, hfails⟩⟩
  · refine .inl ⟨e, invalid, hvalue, ?_, hcalls⟩
    rw [htold, hvalue]
    rfl
  · refine .inr ⟨valid, .inl ⟨s, hvalue, ?_⟩⟩
    rw [htold, hvalue]
    rfl
  · refine .inr ⟨valid, .inr ⟨phase, e, c, hvalue, hfails, ?_, ?_⟩⟩
    · rw [htold, hvalue]
      rfl
    · intro call hcall other hother
      have hmem := mem_phases_of_called hcall hother
      rw [hvalue] at hmem
      exact hmem

end SessionBuilder

end Framecast

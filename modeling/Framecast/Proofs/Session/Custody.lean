import Mathlib
import Framecast.Proofs.Session.Run
import Framecast.Proofs.Session.Sample

/-!
# What a session takes and lets go

A session takes a device context, a frame pool and an encoder, in this order, and is given a
container. The calls of its whole life, read as takings and releases (`handovers`), show who holds
what: a start that fails lets go of as much as it took, the last taken first, and then of the
container; a session that is dropped or finished lets go of the container and then of all three.
Only an overflow while the encoder is drained for the last time leaves the container to the end.

Submitting and flushing neither take nor release, so all of it is settled in the start and the end.
-/

namespace Framecast

open Journaled

/-- What a session holds. -/
inductive Held
  | device (raw : RawContext)
  | framePool
  | encoder
  | container
deriving DecidableEq

/-- Something passes into the hands of a session, or out of them. -/
inductive Handover
  | taken (h : Held)
  | released (h : Held)
deriving DecidableEq

/-- The handover that a call is, if it is one. A call that fails to create something takes nothing;
one that fails to destroy something has let go of it. -/
def Call.handover? : Call → Option Handover
  | .createContext _ _ (.ok raw) => some (.taken (.device raw))
  | .openPool _ _ (.ok _) => some (.taken .framePool)
  | .openEncoder _ (.ok _) => some (.taken .encoder)
  | .destroyContext raw _ => some (.released (.device raw))
  | .release .framePool => some (.released .framePool)
  | .release .encoder => some (.released .encoder)
  | .release .container => some (.released .container)
  | _ => none

/-- The handovers among calls. -/
def handovers (calls : List Call) : List Handover := calls.filterMap Call.handover?

/-- Without calls there are no handovers. -/
@[simp] theorem handovers_nil : handovers [] = [] := rfl

/-- The handovers of one call and then others. -/
@[simp] theorem handovers_cons (c : Call) (calls : List Call) :
    handovers (c :: calls) = c.handover?.toList ++ handovers calls := by
  cases h : c.handover? <;> simp [handovers, h]

/-- The handovers of some calls and then others. -/
@[simp] theorem handovers_append (calls more : List Call) :
    handovers (calls ++ more) = handovers calls ++ handovers more :=
  List.filterMap_append

/-- What a session holds when it has started, in the order in which it took it. -/
def holdings (raw : RawContext) : List Held := [.device raw, .framePool, .encoder]

/-! ## Starting -/

/-- A context that is acquired is taken. -/
theorem Driver.AcquiredBy.handovers_ok {d : Driver} {calls : List Call} {device : DeviceContext}
    (h : d.AcquiredBy calls (.ok device)) : handovers calls = [.taken (.device device.raw)] := by
  cases h
  rfl

/-- A driver that gives no context hands nothing over. -/
theorem Driver.AcquiredBy.handovers_error {d : Driver} {calls : List Call} {e : DeviceError}
    (h : d.AcquiredBy calls (.error e)) : handovers calls = [] := by
  cases h <;> rfl

/-- Planning an encoder takes nothing. -/
theorem handovers_configure (has : String → Bool) (r : EncoderRequest) :
    handovers (configure has r).calls = [] := by
  rw [handovers, List.filterMap_eq_nil_iff]
  intro c hc
  obtain ⟨name, rfl⟩ := lookups_configure has r c hc
  rfl

variable {ε κ : Type}

/-- What was taken for a bound encoder is released in reverse order. -/
theorem handovers_releaseCalls (b : BoundEncoder ε) :
    handovers b.releaseCalls = (holdings b.pool.device.raw).reverse.map .released := rfl

section Binding

variable {b : Backend ε} {device : DeviceContext} {config : EncoderConfig} {native : PixelFormat}
  {calls : List Call}

/-- An encoder that is bound is taken after its pool, which keeps the device context. -/
theorem Backend.BoundBy.handovers_ok {bound : BoundEncoder ε}
    (h : b.BoundBy device config native calls (.ok bound)) :
    bound.pool.device = device ∧ handovers calls = [.taken .framePool, .taken .encoder] := by
  cases h
  exact ⟨rfl, rfl⟩

/-- A binding that fails lets go of the pool, if it was taken, and of the device context. -/
theorem Backend.BoundBy.handovers_error {e : EncoderError}
    (h : b.BoundBy device config native calls (.error e)) :
    handovers calls = [.released (.device device.raw)] ∨
      handovers calls =
        [.taken .framePool, .released .framePool, .released (.device device.raw)] := by
  cases h with
  | hardware => exact .inl (by simp [Call.handover?])
  | poolless => exact .inl (by simp [Call.handover?])
  | mismatched => exact .inr (by simp [Call.handover?])
  | unopened => exact .inr (by simp [Call.handover?])

end Binding

variable [Container κ]

/-- Publishing a stream takes nothing. -/
theorem PublishedBy.handovers {c : κ} {config : EncoderConfig} {extradata : Option ByteArray}
    {calls : List Call} {r : Except MuxError OutputStream × κ}
    (h : PublishedBy c config extradata calls r) : handovers calls = [] := by
  cases h <;> rfl

/-- Everything that the calls took they let go, the last taken first, and then the container. -/
def Unwinds (calls : List Call) : Prop :=
  ∃ raw held, held <+: holdings raw ∧
    handovers calls = held.map .taken ++ (held.reverse ++ [Held.container]).map .released

namespace SessionBuilder

variable {b : SessionBuilder ε κ} {width height : UInt32} {format : SurfaceFormat} {now : Instant}

/-- On a device that is acquired, planning an encoder takes the device context. -/
theorem handovers_planCalls {device : DeviceContext}
    (acquired : b.driver.acquire.value = .ok device) :
    handovers (b.planCalls width height) = [.taken (.device device.raw)] := by
  have ha := b.driver.acquire_acquiredBy
  rw [acquired] at ha
  rw [planCalls, handovers_append, ha.handovers_ok, handovers_configure]
  rfl

variable [Encoder ε]

/-- Once an encoder is bound, everything is taken. -/
theorem Binds.handovers {bound : BoundEncoder ε} {calls : List Call}
    (h : b.Binds width height format bound calls) :
    handovers calls = (holdings bound.pool.device.raw).map .taken := by
  cases h with
  | @intro device config plans bind =>
    have hb := b.backend.bind_boundBy device config format.pixelFormat
    rw [bind] at hb
    obtain ⟨rfl, hcalls⟩ := hb.handovers_ok
    rw [handovers_append, handovers_planCalls plans.acquired, hcalls]
    rfl

/-- A start that succeeds lets go of nothing. -/
theorem StartedBy.handovers {calls : List Call} {s : Session ε κ}
    (h : b.StartedBy width height format now calls (.session s)) :
    handovers calls = (holdings s.bound.pool.device.raw).map .taken := by
  cases h with
  | started binds published header =>
    simp [binds.handovers, published.handovers, Call.handover?]

/-- A start that fails lets go of everything, the container last. -/
theorem StartedBy.unwinds {calls : List Call} {e : SessionError} {c : κ}
    (h : b.StartedBy width height format now calls (.failed e c)) : Unwinds calls := by
  cases h with
  | misconfigured invalid => exact ⟨⟨0⟩, [], List.nil_prefix, rfl⟩
  | unacquired valid failed =>
    have ha := b.driver.acquire_acquiredBy
    rw [failed] at ha
    refine ⟨⟨0⟩, [], List.nil_prefix, ?_⟩
    rw [handovers_append, ha.handovers_error]
    rfl
  | @unplanned device e valid acquired failed =>
    refine ⟨device.raw, [.device device.raw], ⟨[.framePool, .encoder], rfl⟩, ?_⟩
    simp [handovers_planCalls acquired, Call.handover?]
  | @unbound device config e plans failed =>
    have hb := b.backend.bind_boundBy device config format.pixelFormat
    rw [failed] at hb
    -- The pool was taken or not, and the binding has let go of it and of the device context.
    rcases hb.handovers_error with hb | hb
    · refine ⟨device.raw, [.device device.raw], ⟨[.framePool, .encoder], rfl⟩, ?_⟩
      simp [handovers_planCalls plans.acquired, hb, Call.handover?]
    · refine ⟨device.raw, [.device device.raw, .framePool], ⟨[.encoder], rfl⟩, ?_⟩
      simp [handovers_planCalls plans.acquired, hb, Call.handover?]
  | @unpublished before calls bound e c binds published =>
    refine ⟨bound.pool.device.raw, holdings bound.pool.device.raw, List.prefix_rfl, ?_⟩
    simp [binds.handovers, published.handovers, handovers_releaseCalls, Call.handover?]
  | @headerless before calls bound stream c c' f binds published header =>
    refine ⟨bound.pool.device.raw, holdings bound.pool.device.raw, List.prefix_rfl, ?_⟩
    simp [binds.handovers, published.handovers, handovers_releaseCalls, Call.handover?]

end SessionBuilder

/-! ## Submitting and flushing -/

variable [Encoder ε]

/-- A drain cycle takes nothing and lets go of nothing. -/
theorem Cycled.handovers {d : PacketDrain} {e : ε} {timeBase : Rational} {stream : OutputStream}
    {pts : Int64} {c : κ} {calls : List Call} {drained : Drained ε κ}
    (h : Cycled d e timeBase stream pts c calls drained) : handovers calls = [] := by
  refine unseen_of_transfers (fun c hc => ?_) h.transfers
  cases c <;> first | rfl | cases hc

namespace Session

variable {s s' : Session ε κ} {calls : List Call}

/-- A submission takes nothing and lets go of nothing, the device context included. -/
theorem Submitted.handovers {f : CapturedFrame} {answer : Answer}
    (h : s.Submitted f calls answer s') :
    handovers calls = [] ∧ s'.bound.pool.device = s.bound.pool.device := by
  cases h with
  | refused => exact ⟨rfl, rfl⟩
  | unsent => exact ⟨rfl, rfl⟩
  | drained accepts sent cycled =>
    refine ⟨?_, rfl⟩
    simp [cycled.handovers, Call.handover?]

/-- A run takes nothing and lets go of nothing. -/
theorem Ran.handovers {fs : List CapturedFrame} {answers : List Answer}
    (h : s.Ran fs calls answers s') :
    handovers calls = [] ∧ s'.bound.pool.device = s.bound.pool.device := by
  induction h with
  | none => exact ⟨rfl, rfl⟩
  | more _ submitted ih =>
    obtain ⟨hcalls, hdevice⟩ := submitted.handovers
    refine ⟨?_, hdevice.trans ih.2⟩
    rw [handovers_append, ih.1, hcalls, List.append_nil]

/-- Flushing takes nothing and lets go of nothing. -/
theorem FlushedBy.handovers {r : Except Overflow (Option SessionError)}
    (h : s.FlushedBy calls r s') :
    handovers calls = [] ∧ s'.bound.pool.device = s.bound.pool.device := by
  cases h with
  | skipped => exact ⟨rfl, rfl⟩
  | unsent => exact ⟨rfl, rfl⟩
  | drained live ends cycled =>
    cases ends with
    | already => exact ⟨cycled.handovers, rfl⟩
    | signalled =>
      refine ⟨?_, rfl⟩
      simp [cycled.handovers, Call.handover?]

end Session

/-! ## A whole life -/

/-- How a started session is ended. -/
inductive Ending
  | finish (now : Instant)
  | drop

/-- How the life of a session went. -/
inductive Life
  /-- It did not start. -/
  | unstarted (e : SessionError)
  /-- It was finished, with this answer. -/
  | finished (result : Except Overflow (Except SessionError SessionSummary))
  /-- It was dropped. -/
  | dropped

/-- The whole life of a session: it starts, is given frames, and is ended. -/
def SessionBuilder.life (b : SessionBuilder ε κ) (width height : UInt32) (format : SurfaceFormat)
    (start : Instant) (fs : List CapturedFrame) (ending : Ending) : Journaled Life := do
  match ← b.start width height format start with
  | .failed e _ => return .unstarted e
  | .session s => do
    let (_, s) ← s.submitAll fs
    match ending with
    | .finish now => do
      let finished ← s.finish now
      return .finished finished.result
    | .drop => do
      s.release
      return .dropped

/-- The order in which a session lets go of what it holds and of the container, by how its life
went. -/
def Life.releases : Life → List Held → List Held
  | .unstarted _, held => held.reverse ++ [.container]
  | .finished (.error _), held => held.reverse ++ [.container]
  | .finished (.ok _), held => .container :: held.reverse
  | .dropped, held => .container :: held.reverse

/-- What is let go at the end of a life is what was held, and the container. -/
theorem Life.releases_perm (life : Life) (held : List Held) :
    (life.releases held).Perm (.container :: held) := by
  have hlast : (held.reverse ++ [Held.container]).Perm (.container :: held) :=
    List.perm_append_comm.trans ((List.reverse_perm held).cons _)
  have hfirst : (Held.container :: held.reverse).Perm (.container :: held) :=
    (List.reverse_perm held).cons _
  rcases life with _ | (_ | _) | _
  · exact hlast
  · exact hlast
  · exact hfirst
  · exact hfirst

/-- In the course of a life, nothing is taken twice and nothing is let go twice. -/
theorem Life.handovers_nodup (life : Life) {raw : RawContext} {held : List Held}
    (h : held <+: holdings raw) :
    (held.map Handover.taken ++ (life.releases held).map Handover.released).Nodup := by
  have hall : (Held.container :: holdings raw).Nodup := by simp [holdings]
  have hheld : (Held.container :: held).Nodup := hall.sublist (h.sublist.cons_cons _)
  have hreleases : (life.releases held).Nodup := (life.releases_perm held).nodup_iff.mpr hheld
  rw [List.nodup_append]
  -- Takings and releases are distinct each among themselves, and no taking is a release.
  refine ⟨?_, ?_, ?_⟩
  · rw [List.Nodup, List.pairwise_map]
    exact (List.nodup_cons.mp hheld).2.imp fun hne he => hne (Handover.taken.inj he)
  · rw [List.Nodup, List.pairwise_map]
    exact hreleases.imp fun hne he => hne (Handover.released.inj he)
  · simp

/-- A session that is finished lets go of everything, the container first unless a stamp
overflows. -/
theorem Session.FinishedBy.handovers {s : Session ε κ} {duration : Duration} {calls : List Call}
    {finished : Finished κ} (h : s.FinishedBy duration calls finished) :
    handovers calls =
      ((Life.finished finished.result).releases (holdings s.bound.pool.device.raw)).map
        .released := by
  cases h with
  | overflowed flushed =>
    obtain ⟨hcalls, hdevice⟩ := flushed.handovers
    simp [hcalls, handovers_releaseCalls, hdevice, Life.releases, Call.handover?]
  | completed flushed trailer =>
    obtain ⟨hcalls, hdevice⟩ := flushed.handovers
    simp [hcalls, handovers_releaseCalls, hdevice, Life.releases, Call.handover?]

namespace SessionBuilder

variable {b : SessionBuilder ε κ} {width height : UInt32} {format : SurfaceFormat} {start : Instant}

/-- A life that does not start is a start that fails. -/
theorem life_unstarted (fs : List CapturedFrame) (ending : Ending) {e : SessionError} {c : κ}
    (failed : (b.start width height format start).value = .failed e c) :
    (b.life width height format start fs ending).value = .unstarted e ∧
      (b.life width height format start fs ending).calls =
        (b.start width height format start).calls := by
  simp [life, failed]

/-- The life of a session that is finished. -/
theorem life_finished (fs : List CapturedFrame) (now : Instant) {s : Session ε κ}
    (started : (b.start width height format start).value = .session s) :
    (b.life width height format start fs (.finish now)).value =
        .finished ((s.submitAll fs).value.2.finish now).value.result ∧
      (b.life width height format start fs (.finish now)).calls =
        (b.start width height format start).calls ++ (s.submitAll fs).calls ++
          ((s.submitAll fs).value.2.finish now).calls := by
  simp [life, started]

/-- The life of a session that is dropped. -/
theorem life_dropped (fs : List CapturedFrame) {s : Session ε κ}
    (started : (b.start width height format start).value = .session s) :
    (b.life width height format start fs .drop).value = .dropped ∧
      (b.life width height format start fs .drop).calls =
        (b.start width height format start).calls ++ (s.submitAll fs).calls ++
          (s.submitAll fs).value.2.release.calls := by
  simp [life, started]

/-- A session that starts takes everything, and lets go of everything at the end of its life. -/
theorem life_handovers_of_start (fs : List CapturedFrame) (ending : Ending) {s : Session ε κ}
    (started : (b.start width height format start).value = .session s) :
    handovers (b.life width height format start fs ending).calls =
      (holdings s.bound.pool.device.raw).map .taken ++
        ((b.life width height format start fs ending).value.releases
          (holdings s.bound.pool.device.raw)).map .released := by
  have hs := b.start_startedBy width height format start
  rw [started] at hs
  obtain ⟨hrun, hdevice⟩ := (s.submitAll_ran fs).handovers
  cases ending with
  | finish now =>
    obtain ⟨hv, hc⟩ := life_finished fs now started
    have hf := ((s.submitAll fs).value.2.finish_finishedBy now).handovers
    rw [hdevice] at hf
    rw [hc, hv, handovers_append, handovers_append, hs.handovers, hrun, hf, List.append_nil]
  | drop =>
    obtain ⟨hv, hc⟩ := life_dropped fs started
    have hr : handovers (s.submitAll fs).value.2.release.calls =
        (Life.dropped.releases (holdings s.bound.pool.device.raw)).map .released := by
      rw [Session.calls_release, handovers_cons, handovers_releaseCalls, hdevice]
      rfl
    rw [hc, hv, handovers_append, handovers_append, hs.handovers, hrun, hr, List.append_nil]

/-- In every life of a session, whatever the driver, the encoder library and the container answer,
all that is taken is let go exactly once, and nothing else is but the container, exactly once too. A
start takes the device context, the frame pool and the encoder in this order, and may stop at any of
them; the last taken goes first. The container goes after all of them if the session does not start,
before them if it is finished or dropped, and after them if a timestamp overflows while it is
finished. -/
theorem life_custody (b : SessionBuilder ε κ) (width height : UInt32) (format : SurfaceFormat)
    (start : Instant) (fs : List CapturedFrame) (ending : Ending) :
    let life := b.life width height format start fs ending
    (handovers life.calls).Nodup ∧
      ∃ raw held, held <+: holdings raw ∧
        ((∀ e, life.value ≠ .unstarted e) → held = holdings raw) ∧
        handovers life.calls = held.map .taken ++ (life.value.releases held).map .released := by
  intro life
  -- A start that fails is the whole life; a session that starts holds everything until its end.
  rcases hs : (b.start width height format start).value with s | ⟨e, c⟩
  · have hl : handovers life.calls = _ := life_handovers_of_start fs ending hs
    refine ⟨?_, s.bound.pool.device.raw, _, List.prefix_rfl, fun _ => rfl, hl⟩
    rw [hl]
    exact life.value.handovers_nodup List.prefix_rfl
  · obtain ⟨hv, hc⟩ := life_unstarted fs ending hs
    have hstart := b.start_startedBy width height format start
    rw [hs] at hstart
    obtain ⟨raw, held, hprefix, hl⟩ := hstart.unwinds
    have hl' : handovers life.calls =
        held.map .taken ++ (life.value.releases held).map .released := by
      show handovers (b.life width height format start fs ending).calls =
        held.map .taken ++ ((b.life width height format start fs ending).value.releases held).map
          .released
      rw [hc, hv]
      exact hl
    refine ⟨?_, raw, held, hprefix, fun hne => absurd hv (hne e), hl'⟩
    rw [hl']
    exact life.value.handovers_nodup hprefix

/-- A frame whose timestamp is the last one that there is, in nanoseconds. -/
def lateFrame : CapturedFrame := sampleFrame (.ofSeconds (UInt64.size - 1) 999999999)

/-- The packet that an encoder gives at the end of input cannot be stamped after such a frame, and
the container is let go last, after the encoder. -/
theorem container_last_after_overflow :
    let life := sampleBuilder.life 64 48 .bgra ⟨0⟩ [lateFrame] (.finish ⟨0⟩)
    life.value = .finished (.error .addition) ∧
      handovers life.calls =
        [.taken (.device ⟨4096⟩), .taken .framePool, .taken .encoder,
          .released .encoder, .released .framePool, .released (.device ⟨4096⟩),
          .released .container] := by
  have hresult : ((sampleSession.submitAll [lateFrame]).value.2.finish ⟨0⟩).value.result =
      .error .addition := by
    cbv
  obtain ⟨hv, -⟩ := life_finished [lateFrame] ⟨0⟩ sampleBuilder_starts
  have hl := life_handovers_of_start [lateFrame] (.finish ⟨0⟩) sampleBuilder_starts
  rw [hresult] at hv
  rw [hv] at hl
  exact ⟨hv, hl⟩

end SessionBuilder

end Framecast

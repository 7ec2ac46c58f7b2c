import Framecast.Proofs.Drain.Delivery
import Framecast.Proofs.Session.Custody
import Framecast.Proofs.Session.Geometry
import Framecast.Proofs.Session.Phases
import Framecast.Proofs.Session.Sample

/-!
# The phases of an end

What a session does at its end stands in its journal among the phases that it announces: what is
called after one of them and before the next is the work of that phase (`told`). A session that is
finished goes through all of them in order, whatever its collaborators answer (`deeds_finish`).

Two answers only make it fail. The end of input is signalled unless the encoder has reported the end
of its stream, which a session knows from its drain (`Heard`); a refused end of input is the failure
of the flush, and nothing that comes of the packets is (`FlushedBy.failure_iff`). The other one is a
refused trailer, and the flush comes first (`shutdown_in_phases`).
-/

namespace Framecast

open Journaled

/-! ## Deeds -/

/-- The call that was made, if it is one. -/
def Happening.call? : Happening → Option Call
  | .call c => some c
  | _ => none

/-- It is a deed: a collaborator was called, or somebody was told. A line for the log is none. -/
def Happening.isDeed (h : Happening) : Bool := h.call?.isSome || h.isTiding

namespace Journaled

variable {α β : Type} {x : Journaled α}

/-- The calls and the tidings, in the order in which they happened. -/
def deeds (x : Journaled α) : List Happening := x.happenings.filter Happening.isDeed

/-- The calls are among what happened. -/
theorem calls_eq (x : Journaled α) : x.calls = x.happenings.filterMap Happening.call? := by
  unfold calls happenings
  rw [List.filterMap_map]
  rfl

/-- Work that tells nobody anything does no more than its calls. -/
theorem deeds_of_silent (silent : x.tidings = []) : x.deeds = x.calls.map .call := by
  unfold deeds
  rw [calls_eq]
  have huntold : x.happenings.filter Happening.isTiding = [] := silent
  generalize x.happenings = hs at huntold ⊢
  induction hs with
  | nil => rfl
  | cons h hs ih =>
    obtain ⟨hfirst, hrest⟩ := List.forall_mem_cons.mp (List.filter_eq_nil_iff.mp huntold)
    have hdeeds := ih (List.filter_eq_nil_iff.mpr hrest)
    cases h with
    | call c => exact congrArg (Happening.call c :: ·) hdeeds
    | line l => exact hdeeds
    | note text => exact hdeeds
    | startup phase => exact absurd rfl hfirst
    | shutdown phase => exact absurd rfl hfirst
    | event e delivered => exact absurd rfl hfirst

/-- Nothing happened, so nothing was done. -/
@[simp] theorem deeds_pure (a : α) : (pure a : Journaled α).deeds = [] := rfl

/-- One thing after the other does what both do, in order. -/
@[simp] theorem deeds_bind (x : Journaled α) (f : α → Journaled β) :
    (x >>= f).deeds = x.deeds ++ (f x.value).deeds := by
  simp [deeds, happenings]

/-- A function of the outcome leaves what was done alone. -/
@[simp] theorem deeds_map (f : α → β) (x : Journaled α) : (f <$> x).deeds = x.deeds := by
  simp [deeds, happenings]

/-- A span leaves what is done within it alone. -/
@[simp] theorem deeds_within (s : Span) (x : Journaled α) : (x.within s).deeds = x.deeds := by
  unfold deeds
  rw [happenings_within]

/-- A line for the log is no deed. -/
@[simp] theorem deeds_say (level : Level) (speaker : Speaker) (message : String)
    (fields : List Field) : (say level speaker message fields).deeds = [] := rfl

/-- Letting go of a resource is one deed. -/
@[simp] theorem deeds_release (r : Resource) : (release r).deeds = [.call (.release r)] := rfl

end Journaled

/-- Phases that are told one after the other, each before the calls of its work. -/
def told (phases : List (ShutdownPhase × List Call)) : List Happening :=
  phases.flatMap fun (phase, calls) => .shutdown phase :: calls.map .call

/-- Announcing a phase of the end is one deed. -/
@[simp] theorem deeds_announceEnd (phase : ShutdownPhase) :
    (announceEnd phase).deeds = [.shutdown phase] := rfl

variable {ε κ : Type} [Encoder ε] [Container κ]

/-! ## The end of a stream -/

/-- The loop that pulls packets moves packets from the encoder to the container until the encoder
gives none. -/
theorem Pulled.passages {stream : Nat} {stamp : Int64} {e e' : ε} {o o' : Outlet κ}
    {calls : List Call} {r : Except Overflow DrainOutcome} {outcome : DrainOutcome}
    (h : Pulled stream stamp e o calls r e' o') (completes : r = .ok outcome) :
    ∃ (ws : List Passage) (a : Received),
      calls = ws.flatMap (Passage.calls stream) ++ [.receive a] ∧ a.outcome? = some outcome := by
  induction h with
  | @taken _ _ _ _ _ p ts _ _ _ _ _ _ _ ih =>
    obtain ⟨ws, a, rfl, ha⟩ := ih completes
    exact ⟨⟨p, ts, .ok ()⟩ :: ws, a, rfl, ha⟩
  | @refused _ _ _ _ _ p ts f _ _ _ _ _ _ _ ih =>
    obtain ⟨ws, a, rfl, ha⟩ := ih completes
    exact ⟨⟨p, ts, .error f⟩ :: ws, a, rfl, ha⟩
  | overflowed => cases completes
  | @stopped _ _ _ a _ _ ends =>
    obtain rfl := Except.ok.inj completes
    exact ⟨[], a, rfl, ends⟩

/-- A loop that an overflow ends has not heard the end of the stream. -/
theorem Pulled.unheard {stream : Nat} {stamp : Int64} {e e' : ε} {o o' : Outlet κ}
    {calls : List Call} {r : Except Overflow DrainOutcome} {x : Overflow}
    (h : Pulled stream stamp e o calls r e' o') (overflow : r = .error x) :
    .receive .endOfStream ∉ calls := by
  induction h with
  | taken received next written rest ih => simpa using ih overflow
  | refused received next written rest ih => simpa using ih overflow
  | overflowed received next => simp
  | stopped received ends => cases overflow

namespace Session

variable {s s' : Session ε κ} {calls more : List Call} {f : CapturedFrame} {answer : Answer}

/-- The drain is terminal exactly if the encoder has reported end of stream in these calls. -/
def Heard (s : Session ε κ) (calls : List Call) : Prop :=
  s.drain.isTerminal = true ↔ .receive .endOfStream ∈ calls

omit [Encoder ε] [Container κ] in
/-- Calls by which no end of stream is reported leave it unheard where the drain stays as it is. -/
theorem Heard.unchanged (h : s.Heard calls) (drain : s'.drain = s.drain)
    (none : .receive .endOfStream ∉ more) : s'.Heard (calls ++ more) := by
  unfold Heard
  rw [drain, List.mem_append]
  exact ⟨fun ht => .inl (h.mp ht), fun hmem => h.mpr (hmem.resolve_right none)⟩

omit [Encoder ε] [Container κ] in
/-- A live session has not heard the end of the stream. -/
theorem Heard.unheard (h : s.Heard calls) (live : s.drain.isTerminal = false) :
    .receive .endOfStream ∉ calls := by
  intro hmem
  have hterminal := h.mpr hmem
  rw [live] at hterminal
  cases hterminal

/-- A drain cycle hears the end of the stream if it is reported. An overflow comes before that. -/
theorem Heard.after (h : s.Heard calls) {pts : Int64} {d : Drained ε κ}
    (cycled : s.Cycles pts more d) : (s.after d).Heard (calls ++ more) := by
  cases cycled with
  | terminated _ => exact h.unchanged rfl (by simp)
  | overflowed live pulled =>
    have hunheard := pulled.unheard rfl
    have hbefore := h.unheard live
    unfold Heard
    simp [Session.after, PacketDrain.isTerminal, hbefore, hunheard]
  | @settled _ outcome _ _ live pulled =>
    have hcycle := pulled.endOfStream_iff outcome rfl
    have hbefore := h.unheard live
    unfold Heard
    rw [List.mem_append, or_iff_right hbefore, ← hcycle]
    by_cases ho : outcome = .endOfStream <;>
      simp [Session.after, PacketDrain.settle, PacketDrain.isTerminal, ho]

/-- A session hears the end of the stream if it is reported after a frame, and not before. -/
theorem Heard.submitted (h : s.Heard calls) (submitted : s.Submitted f more answer s') :
    s'.Heard (calls ++ more) := by
  cases submitted with
  | refused _ => exact h.unchanged rfl (by simp)
  | unsent _ _ => exact h.unchanged rfl (by simp)
  | @drained pts e cycle d accepts sent cycled =>
    have hsent : (s.sending e pts).Heard (calls ++ [.sendFrame (surface f pts) (.ok ())]) :=
      h.unchanged rfl (by simp)
    simpa using hsent.after cycled

/-- A session that was started has heard the end of the stream exactly if it was reported. -/
theorem heard_submitAll {b : SessionBuilder ε κ} {width height : UInt32} {format : SurfaceFormat}
    {start : Instant} (started : (b.start width height format start).value = .session s)
    (fs : List CapturedFrame) :
    (s.submitAll fs).value.2.Heard (s.submitAll fs).calls := by
  refine (s.submitAll_ran fs).keeps (I := fun calls _ s' => s'.Heard calls) ?_
    fun h submitted => h.submitted submitted
  have hfresh := SessionBuilder.fresh_of_start started
  unfold Heard
  rw [hfresh.drain]
  simp [PacketDrain.isTerminal]

/-! ## Flushing -/

/-- What is called to flush an encoder, depending on whether it has reported end of stream: nothing
at all, or the end of input, and unless that is refused, packets are moved until there is none. -/
inductive FlushCalls (stream : Nat) (seen : Prop) : List Call → Prop
  /-- It has reported end of stream. -/
  | skipped (ended : seen) : FlushCalls stream seen []
  /-- It refuses the end of input. -/
  | refused (live : ¬ seen) (fault : Fault) : FlushCalls stream seen [.sendEnd (.error fault)]
  /-- It takes the end of input, and gives packets until it answers something else. -/
  | drained (live : ¬ seen) (ws : List Passage) {a : Received} {outcome : DrainOutcome}
      (ends : a.outcome? = some outcome) :
      FlushCalls stream seen
        (.sendEnd (.ok ()) :: ws.flatMap (Passage.calls stream) ++ [.receive a])

/-- A session whose encoder has not been told the end of input flushes it in one of these ways. The
flush fails exactly if the end of input is refused, whatever becomes of the packets. -/
theorem FlushedBy.failure_iff {failure : Option SessionError}
    (h : s.FlushedBy calls (.ok failure) s') (unflushed : s.bound.flushed = false) :
    FlushCalls s.stream.index (s.drain.isTerminal = true) calls ∧
      ∀ e, failure = some e ↔
        ∃ fault, .sendEnd (.error fault) ∈ calls ∧ e = .encoder (.sendFailed fault) := by
  generalize hr : (Except.ok failure : Except Overflow (Option SessionError)) = r at h
  cases h with
  | skipped terminal =>
    obtain rfl := Except.ok.inj hr
    exact ⟨.skipped terminal, by simp⟩
  | @unsent fault _ live _ _ =>
    obtain rfl := Except.ok.inj hr
    exact ⟨.refused (by simp [live]) fault, by simp [eq_comm]⟩
  | @drained before cycle s'' d live ends cycled =>
    cases ends with
    | already flushed =>
      rw [unflushed] at flushed
      cases flushed
    | @signalled e _ sent =>
      have hlive : (s.ending e).drain.isTerminal = false := live
      cases cycled with
      | terminated terminal =>
        rw [hlive] at terminal
        cases terminal
      | overflowed => cases hr
      | @settled _ outcome _ _ _ pulled =>
        -- Whatever the outcome of the cycle, a stall included, it is reported and no failure.
        obtain rfl := Except.ok.inj hr
        obtain ⟨ws, a, rfl, ha⟩ := pulled.passages rfl
        refine ⟨.drained (by simp [live]) ws ha, fun e => ?_⟩
        have hmoves : ∀ fault, .sendEnd (.error fault) ∉
            ws.flatMap (Passage.calls s.stream.index) ++ [.receive a] := by
          simp [Passage.calls]
        have hnone : ∀ fault, .sendEnd (.error fault) ∉
            [.sendEnd (.ok ())] ++ (ws.flatMap (Passage.calls s.stream.index) ++ [.receive a]) := by
          intro fault
          rw [List.mem_append, not_or]
          exact ⟨by simp, hmoves fault⟩
        constructor
        · intro hsome
          cases hsome
        · rintro ⟨fault, hmem, -⟩
          exact absurd hmem (hnone fault)

/-! ## Finishing -/

/-- What a session does when it is finished and its flush does not overflow: all phases, one after
the other, each told before its work. -/
theorem deeds_finish {failure : Option SessionError} (now : Instant)
    (flushed : s.flush.value = (.ok failure, s')) :
    (s.finish now).deeds = told
      [(.flushEncoder, s.flush.calls),
        (.writeTrailer, s'.endOutput.calls ++ [.release .container]),
        (.releaseEncoder, [.release .encoder]),
        (.releaseFramePool, [.release .framePool]),
        (.releaseDevice, s'.bound.pool.device.release.calls)] := by
  have hflush := deeds_of_silent s.tidings_flush
  have htrailer := deeds_of_silent s'.tidings_endOutput
  have hdevice := deeds_of_silent s'.bound.pool.device.tidings_release
  unfold finish
  cases hfail : failure.or s'.endOutput.value.1 <;>
    simp [releaseBound, FramePool.intoDevice, told, flushed, hflush, htrailer, hdevice, hfail]

/-- A run writes to the stream of the session that it began with. -/
theorem Ran.stream_eq {fs : List CapturedFrame} {answers : List Answer}
    (h : s.Ran fs calls answers s') : s'.stream = s.stream := by
  induction h with
  | none => rfl
  | more _ submitted ih =>
    refine Eq.trans ?_ ih
    cases submitted with
    | refused => rfl
    | unsent => rfl
    | drained => rfl

omit [Encoder ε] in
/-- The answer of a container to its trailer, in what a session calls and in how it fails. -/
theorem endOutput_answer (s : Session ε κ) :
    ∃ trailer, s.endOutput.calls = [.writeTrailer trailer] ∧
      ∀ e, s.endOutput.value.1 = some e ↔
        ∃ fault, trailer = .error fault ∧ e = .mux (.trailerFailed fault) := by
  rcases htrailer : Container.writeTrailer s.container with ⟨trailer, c⟩
  obtain ⟨hvalue, hcalls⟩ := endOutput_eq htrailer
  refine ⟨trailer, hcalls, fun e => ?_⟩
  rw [hvalue]
  cases trailer <;> simp [trailerError?, eq_comm]

/-- A session fails with the failure that there is. -/
theorem outcome_error {failure : Option SessionError} {summary : SessionSummary}
    {e : SessionError} : outcome failure summary = .error e ↔ failure = some e := by
  cases failure <;> simp [outcome]

/-- A session that was started, and was then given frames, ends in its phases when it is finished,
unless a timestamp overflows. Each phase is announced once, in order, and its work is done before
the next one is announced, whatever failed by then: the encoder is flushed unless it has reported
end of stream, the trailer is written and the container let go, and the encoder, the frame pool and
the device context are let go. The answer is an error exactly if the end of input was refused, or
the trailer was, and the former if both were. Nothing else makes it one: not a packet that is
refused, not how the last cycle ended, nor the answer of the driver. -/
theorem shutdown_in_phases {b : SessionBuilder ε κ} {width height : UInt32}
    {format : SurfaceFormat} {start : Instant}
    (started : (b.start width height format start).value = .session s) (fs : List CapturedFrame)
    (now : Instant)
    (fits : ((s.submitAll fs).value.2.finish now).value.result ≠ .error .addition) :
    let ran := s.submitAll fs
    let ended := ran.value.2.finish now
    let device := s.bound.pool.device
    ∃ flushing trailer result,
      ended.value.result = .ok result ∧
      ended.deeds = told
        [(.flushEncoder, flushing),
          (.writeTrailer, [.writeTrailer trailer, .release .container]),
          (.releaseEncoder, [.release .encoder]),
          (.releaseFramePool, [.release .framePool]),
          (.releaseDevice,
            [.destroyContext device.raw (device.driver.destroyContext device.raw)])] ∧
      FlushCalls s.stream.index (.receive .endOfStream ∈ ran.calls) flushing ∧
      ∀ e, result = .error e ↔
        (∃ fault, .sendEnd (.error fault) ∈ flushing ∧ e = .encoder (.sendFailed fault)) ∨
          (∀ fault, .sendEnd (.error fault) ∉ flushing) ∧
            ∃ fault, trailer = .error fault ∧ e = .mux (.trailerFailed fault) := by
  intro ran ended device
  have hran := s.submitAll_ran fs
  have hmade := (madeFor_of_start started).submitAll fs
  have hheard : ran.value.2.Heard ran.calls := heard_submitAll started fs
  have hflushed := ran.value.2.flush_flushedBy
  have hresult := ran.value.2.finish_result now
  rcases hflush : ran.value.2.flush.value with ⟨x | failure, s'⟩
  · -- The flush does not overflow, for the session would end in that.
    rw [hflush] at hflushed hresult
    obtain rfl := hflushed.overflow_eq
    exact absurd hresult fits
  rw [hflush] at hflushed hresult
  obtain ⟨hcalls, hfails⟩ := hflushed.failure_iff hmade.unflushed
  obtain ⟨trailer, htrailer, hrefused⟩ := s'.endOutput_answer
  -- The flush and the frames before it leave the device that the session was started with.
  have hdevice : s'.bound.pool.device = device :=
    hflushed.handovers.2.trans hran.handovers.2
  refine ⟨ran.value.2.flush.calls, trailer, _, hresult, ?_, ?_, fun e => ?_⟩
  · have hdeeds := deeds_finish now hflush
    rw [htrailer, hdevice, DeviceContext.calls_release] at hdeeds
    exact hdeeds
  · rw [← hran.stream_eq, ← propext hheard]
    exact hcalls
  · -- The error of the flush comes first, so that of the trailer counts only if there is none.
    have hnone : failure = none ↔ ∀ fault, .sendEnd (.error fault) ∉ ran.value.2.flush.calls := by
      rw [Option.eq_none_iff_forall_ne_some]
      constructor
      · intro hall fault hmem
        exact hall _ ((hfails _).mpr ⟨fault, hmem, rfl⟩)
      · intro hall e hsome
        obtain ⟨fault, hmem, -⟩ := (hfails e).mp hsome
        exact hall fault hmem
    rw [outcome_error, Option.or_eq_some_iff, hfails, hrefused, hnone]

/-- What the collaborators of `unwillingBuilder` answer. -/
def unwilling : Fault := ⟨-5, "refused"⟩

/-- A builder of sessions that nobody helps to end: the encoder refuses the end of input, the
container a packet and the trailer, and the driver to destroy the device context. -/
def unwillingBuilder : SessionBuilder ScriptedEncoder ScriptedContainer :=
  { driver := { sampleBuilder.driver with destroyContext := fun _ => .error unwilling }
    backend :=
      { sampleBuilder.backend with
        openEncoder := fun config => .ok { name := config.encoderName, ending := some unwilling } }
    container :=
      { memory := sampleBuilder.container
        writing := [some unwilling]
        trailer := some unwilling }
    config := {} }

/-- The session that it starts for small frames. -/
def unwillingSession : Session ScriptedEncoder ScriptedContainer :=
  { sampleSession with
    container := { unwillingBuilder.container with memory := sampleSession.container }
    bound :=
      { sampleSession.bound with
        encoder := { name := "h264_nvenc", ending := some unwilling }
        pool :=
          { sampleSession.bound.pool with
            device :=
              { sampleSession.bound.pool.device with driver := unwillingBuilder.driver } } } }

/-- It goes through all phases nevertheless, and ends with the failure of the flush. -/
theorem shutdown_in_phases_sample :
    let ran := unwillingSession.submitAll [sampleFrame .zero]
    let ended := ran.value.2.finish ⟨1⟩
    ran.value.1 = [.ok (.ok ⟨0, 0, 1, .exhausted⟩)] ∧
      ended.value.result = .ok (.error (.encoder (.sendFailed unwilling))) ∧
      ∃ flushing trailer, .sendEnd (.error unwilling) ∈ flushing ∧
        ended.deeds = told
          [(.flushEncoder, flushing),
            (.writeTrailer, [.writeTrailer trailer, .release .container]),
            (.releaseEncoder, [.release .encoder]),
            (.releaseFramePool, [.release .framePool]),
            (.releaseDevice, [.destroyContext ⟨4096⟩ (.error unwilling)])] := by
  intro ran ended
  have hstarts : (unwillingBuilder.start 64 48 .bgra ⟨0⟩).value = .session unwillingSession := rfl
  have hanswers : ran.value.1 = [.ok (.ok ⟨0, 0, 1, .exhausted⟩)] := by cbv
  have hlive : ran.value.2.drain.isTerminal = false := by cbv
  have hends : ran.value.2.bound.flush.value.1 = .error (.sendFailed unwilling) := by cbv
  have hresult : ended.value.result = .ok (.error (.encoder (.sendFailed unwilling))) := by
    have hflush : ran.value.2.flush.value.1 = .ok (some (.encoder (.sendFailed unwilling))) := by
      simp [flush, hlive, hends]
    show (ran.value.2.finish ⟨1⟩).value.result = _
    rw [finish_result, hflush]
    rfl
  have hfits : ended.value.result ≠ .error .addition := by
    rw [hresult]
    simp
  obtain ⟨flushing, trailer, result, hok, hdeeds, -, hfails⟩ :=
    shutdown_in_phases hstarts [sampleFrame .zero] ⟨1⟩ hfits
  obtain rfl := Except.ok.inj (hresult.symm.trans hok)
  refine ⟨hanswers, hresult, flushing, trailer, ?_, hdeeds⟩
  -- An error that is not the trailer's is that of the flush.
  rcases (hfails _).mp rfl with ⟨fault, hmem, herror⟩ | ⟨-, fault, -, herror⟩
  · obtain rfl := EncoderError.sendFailed.inj (SessionError.encoder.inj herror)
    exact hmem
  · cases herror

end Session

end Framecast

import Framecast.Proofs.Session.Run

/-!
# What the container of a session sees

A container is given a stream, then the header is written, then packets, then the trailer, and then
it is let go. The calls that do this are the `outputs` among all calls. A start that succeeds makes
the first two, one that fails makes some of them and lets go (`Futile`), submissions and the flush
only write packets (`Writes`), and the end writes the trailer unless a stamp overflows.
-/

namespace Framecast

open Journaled

/-- A container is opened, written to, or let go. -/
def Call.isOutput : Call → Bool
  | .openContainer _ (.ok ()) => true
  | .addStream _ _ => true
  | .writeHeader _ => true
  | .writePacket _ _ => true
  | .writeTrailer _ => true
  | .release .container => true
  | _ => false

/-- What containers see of calls. -/
def outputs (calls : List Call) : List Call := calls.filter Call.isOutput

/-- Containers see of calls one after the other what they see of each. -/
@[simp] theorem outputs_append (calls more : List Call) :
    outputs (calls ++ more) = outputs calls ++ outputs more :=
  List.filter_append ..

/-- Containers see nothing of other calls. -/
theorem outputs_eq_nil {calls : List Call} (h : ∀ c ∈ calls, c.isOutput = false) :
    outputs calls = [] := by
  rw [outputs, List.filter_eq_nil_iff]
  intro c hc
  simp [h c hc]

/-- Each of the calls writes a packet, whatever the container answers. -/
def PacketsOnly (calls : List Call) : Prop := ∀ c ∈ calls, ∃ p answer, c = .writePacket p answer

/-- All that containers see of these calls is packets. -/
def Writes (calls : List Call) : Prop := PacketsOnly (outputs calls)

namespace Writes

variable {calls more : List Call}

/-- Calls of which containers see nothing write no more than packets. -/
theorem of_outputs_eq_nil (h : outputs calls = []) : Writes calls := by
  unfold Writes
  rw [h]
  exact fun c hc => absurd hc List.not_mem_nil

/-- Packets may be written by calls one after the other. -/
theorem append (h : Writes calls) (h' : Writes more) : Writes (calls ++ more) := by
  unfold Writes
  rw [outputs_append]
  exact List.forall_mem_append.mpr ⟨h, h'⟩

/-- A call of which containers see nothing may come before packets. -/
theorem cons {c : Call} (hc : c.isOutput = false) (h : Writes calls) : Writes (c :: calls) :=
  (of_outputs_eq_nil (outputs_eq_nil (List.forall_mem_singleton.mpr hc))).append h

/-- Calls that move packets along write packets. -/
theorem of_transfers (h : ∀ c ∈ calls, c.transfers = true) : Writes calls := by
  intro c hc
  obtain ⟨hmem, hout⟩ := List.mem_filter.mp hc
  have ht := h c hmem
  cases c with
  | writePacket p answer => exact ⟨p, answer, rfl⟩
  | receive _ => cases hout
  | _ => cases ht

end Writes

/-! ## Starting -/

/-- What a container sees that is opened for a session that starts. -/
def openingCalls (config : SessionConfig) (spec : StreamSpec) (index : Nat) : List Call :=
  [.openContainer config (.ok ()), .addStream spec (some index), .writeHeader (.ok ())]

/-- What the container of a session sees that does not start, before it is let go. -/
inductive Futile : List Call → Prop
  /-- Nothing. -/
  | untouched : Futile []
  /-- The stream, which it refuses or puts elsewhere. -/
  | unpublished {spec : StreamSpec} {answer : Option Nat} : Futile [.addStream spec answer]
  /-- The stream and the header, which it refuses. -/
  | headerless {spec : StreamSpec} {index : Nat} {f : Fault} :
      Futile [.addStream spec (some index), .writeHeader (.error f)]

/-- The container sees nothing of a context that is acquired or not. -/
theorem Driver.outputs_acquire (d : Driver) : outputs d.acquire.calls = [] := by
  have h := d.acquire_acquiredBy
  generalize d.acquire.calls = calls, d.acquire.value = r at h
  cases h <;> rfl

/-- The container sees nothing of an encoder that is planned. -/
theorem outputs_configure (has : String → Bool) (r : EncoderRequest) :
    outputs (configure has r).calls = [] := by
  apply outputs_eq_nil
  intro c hc
  obtain ⟨name, rfl⟩ := lookups_configure has r c hc
  rfl

variable {ε κ : Type}

/-- The container sees nothing of an encoder that is bound or not. -/
theorem Backend.outputs_bind [Encoder ε] (b : Backend ε) (device : DeviceContext)
    (config : EncoderConfig) (native : PixelFormat) :
    outputs (b.bind device config native).calls = [] := by
  have h := b.bind_boundBy device config native
  generalize (b.bind device config native).calls = calls, (b.bind device config native).value = r
    at h
  cases h <;> simp [outputs, Call.isOutput]

/-- The container sees nothing of a bound encoder that is let go. -/
theorem BoundEncoder.outputs_releaseCalls (b : BoundEncoder ε) : outputs b.releaseCalls = [] := rfl

section Publishing

variable [Container κ] {c c' : κ} {config : EncoderConfig} {extradata : Option ByteArray}
  {calls : List Call}

/-- A container in which a stream is published sees that. -/
theorem PublishedBy.outputs_ok {stream : OutputStream}
    (h : PublishedBy c config extradata calls (.ok stream, c')) :
    ∃ spec index, outputs calls = [.addStream spec (some index)] := by
  cases h with
  | published base added => exact ⟨config.streamSpec extradata, Container.streamCount c, rfl⟩

/-- A container in which no stream is published may have seen the attempt. -/
theorem PublishedBy.futile {e : MuxError}
    (h : PublishedBy c config extradata calls (.error e, c')) : Futile (outputs calls) := by
  cases h with
  | unusable base => exact .untouched
  | refused base added => exact .unpublished
  | misplaced base added other => exact .unpublished

end Publishing

namespace SessionBuilder

variable [Container κ] {b : SessionBuilder ε κ} {width height : UInt32} {format : SurfaceFormat}
  {now : Instant} {calls : List Call}

/-- The container sees nothing of the first two phases. -/
theorem outputs_planCalls : outputs (b.planCalls width height) = [] := by
  rw [planCalls, outputs_append, b.driver.outputs_acquire, outputs_configure]
  rfl

variable [Encoder ε]

/-- The container sees nothing of the first three phases. -/
theorem Binds.outputs {bound : BoundEncoder ε} (h : b.Binds width height format bound calls) :
    outputs calls = [] := by
  cases h with
  | intro plans bind =>
    rw [outputs_append, outputs_planCalls, b.backend.outputs_bind]
    rfl

/-- The container of a session that starts has seen the stream and the header, and nothing else. -/
theorem StartedBy.outputs_session {s : Session ε κ}
    (h : b.StartedBy width height format now calls (.session s)) :
    ∃ spec index, outputs calls = [.addStream spec (some index), .writeHeader (.ok ())] := by
  cases h with
  | started binds published header =>
    obtain ⟨spec, index, hp⟩ := published.outputs_ok
    refine ⟨spec, index, ?_⟩
    rw [outputs_append, outputs_append, binds.outputs, hp]
    rfl

/-- The container of a session that does not start has seen some of that in vain, and is let go
last. -/
theorem StartedBy.outputs_failed {e : SessionError} {c : κ}
    (h : b.StartedBy width height format now calls (.failed e c)) :
    ∃ before, Futile before ∧ outputs calls = before ++ [.release .container] := by
  cases h with
  | misconfigured invalid => exact ⟨[], .untouched, rfl⟩
  | unacquired valid failed =>
    refine ⟨[], .untouched, ?_⟩
    rw [outputs_append, b.driver.outputs_acquire]
    rfl
  | @unplanned device e valid acquired failed =>
    refine ⟨[], .untouched, ?_⟩
    rw [outputs_append, outputs_append, outputs_planCalls, device.calls_release]
    rfl
  | unbound plans failed =>
    refine ⟨[], .untouched, ?_⟩
    rw [outputs_append, outputs_append, outputs_planCalls, b.backend.outputs_bind]
    rfl
  | @unpublished before attempt bound e c binds published =>
    refine ⟨outputs attempt, published.futile, ?_⟩
    rw [outputs_append, outputs_append, outputs_append, binds.outputs, bound.outputs_releaseCalls,
      List.append_nil]
    rfl
  | @headerless before attempt bound stream c c' f binds published header =>
    obtain ⟨spec, index, hp⟩ := published.outputs_ok
    refine ⟨[.addStream spec (some index), .writeHeader (.error f)], .headerless, ?_⟩
    rw [outputs_append, outputs_append, outputs_append, outputs_append, binds.outputs, hp,
      bound.outputs_releaseCalls]
    rfl

end SessionBuilder

/-! ## Submitting, flushing and ending -/

namespace Session

variable [Encoder ε] [Container κ] {s s' : Session ε κ} {calls : List Call}

/-- A submission writes nothing but packets. -/
theorem Submitted.writes {f : CapturedFrame} {answer : Answer}
    (h : s.Submitted f calls answer s') : Writes calls := by
  cases h with
  | refused _ => exact .of_outputs_eq_nil rfl
  | unsent _ _ => exact .of_outputs_eq_nil rfl
  | drained _ _ cycled => exact .cons rfl (.of_transfers cycled.transfers)

/-- A flush writes nothing but packets. -/
theorem FlushedBy.writes {r : Except Overflow (Option SessionError)}
    (h : s.FlushedBy calls r s') : Writes calls := by
  cases h with
  | skipped _ => exact .of_outputs_eq_nil rfl
  | unsent _ _ _ => exact .of_outputs_eq_nil rfl
  | drained live ends cycled =>
    cases ends with
    | already _ => exact .of_transfers cycled.transfers
    | signalled _ _ => exact .cons rfl (.of_transfers cycled.transfers)

/-- The end of a session writes packets and then the trailer, whatever failed before, unless a stamp
overflows while the encoder is drained; then the container is let go. -/
theorem FinishedBy.outputs_cases {duration : Duration} {finished : Finished κ}
    (h : s.FinishedBy duration calls finished) :
    ∃ before, Writes before ∧
      ((∃ result answer, finished.result = .ok result ∧
          outputs calls = outputs before ++ [.writeTrailer answer, .release .container]) ∨
        ∃ x, finished.result = .error x ∧
          outputs calls = outputs before ++ [.release .container]) := by
  cases h with
  | @overflowed before x s' flushed =>
    refine ⟨before, flushed.writes, .inr ⟨x, rfl, ?_⟩⟩
    rw [outputs_append, outputs_append, s'.bound.outputs_releaseCalls, List.append_nil]
    rfl
  | @completed before failure s' answer c flushed trailer =>
    refine ⟨before, flushed.writes, .inl ⟨_, answer, rfl, ?_⟩⟩
    rw [outputs_append]
    rfl

omit [Encoder ε] [Container κ] in
/-- The container of a session that is dropped is let go as it is. -/
theorem outputs_release (s : Session ε κ) : outputs s.release.calls = [.release .container] := by
  rw [s.calls_release]
  rfl

end Session

end Framecast

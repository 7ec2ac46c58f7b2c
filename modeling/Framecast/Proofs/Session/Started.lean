import Framecast.Proofs.Session.Finished
import Framecast.Session.Start

/-!
# What starting a session does

A start stops at the first phase that fails and lets go of what the phases before it acquired, the
container last. `StartedBy` has one case for each place where it can stop, with the calls made by
then, and `start_startedBy` says that there is no other.
-/

namespace Framecast

open Journaled

variable {ε κ : Type} [Encoder ε] [Container κ]

/-- The ways a stream is published: not at all, in vain, or under the index that comes next. -/
inductive PublishedBy (c : κ) (config : EncoderConfig) (extradata : Option ByteArray) :
    List Call → Except MuxError OutputStream × κ → Prop
  /-- The time base is not positive, and the container is not asked. -/
  | unusable (base : config.timeBase.isPositive = false) :
      PublishedBy c config extradata [] (.error (.invalidTimeBase config.timeBase), c)
  /-- The container has no room for a stream. -/
  | refused {c' : κ} (base : config.timeBase.isPositive = true)
      (added : Container.addStream c (config.streamSpec extradata) = (none, c')) :
      PublishedBy c config extradata [.addStream (config.streamSpec extradata) none]
        (.error .streamRefused, c')
  /-- The container gives another index than the next one. -/
  | misplaced {index : Nat} {c' : κ} (base : config.timeBase.isPositive = true)
      (added : Container.addStream c (config.streamSpec extradata) = (some index, c'))
      (other : index ≠ Container.streamCount c) :
      PublishedBy c config extradata [.addStream (config.streamSpec extradata) (some index)]
        (.error (.unexpectedIndex (Container.streamCount c) index), c')
  /-- The stream has the next index. -/
  | published {c' : κ} (base : config.timeBase.isPositive = true)
      (added : Container.addStream c (config.streamSpec extradata) =
        (some (Container.streamCount c), c')) :
      PublishedBy c config extradata
        [.addStream (config.streamSpec extradata) (some (Container.streamCount c))]
        (.ok ⟨Container.streamCount c, config.timeBase, config.frameRate⟩, c')

/-- A stream is published in one of these ways. -/
theorem publish_publishedBy (c : κ) (config : EncoderConfig) (extradata : Option ByteArray) :
    PublishedBy c config extradata (publish c config extradata).calls
      (publish c config extradata).value := by
  cases hb : config.timeBase.isPositive with
  | false => simpa [publish, hb] using PublishedBy.unusable hb
  | true =>
    rcases ha : Container.addStream c (config.streamSpec extradata) with ⟨_ | index, c'⟩
    · simpa [publish, hb, ha] using PublishedBy.refused hb ha
    · by_cases hi : index = Container.streamCount c
      · subst hi
        simpa [publish, hb, ha] using PublishedBy.published hb ha
      · simpa [publish, hb, ha, hi] using PublishedBy.misplaced hb ha hi

namespace SessionBuilder

/-- What the driver, the encoder library and the container are asked in the first two phases. -/
def planCalls (b : SessionBuilder ε κ) (width height : UInt32) : List Call :=
  b.driver.acquire.calls ++ (configure b.backend.hasEncoder (b.request width height)).calls

/-- The encoder is planned on a device: the first two phases succeed. -/
structure Plans (b : SessionBuilder ε κ) (width height : UInt32) (device : DeviceContext)
    (config : EncoderConfig) : Prop where
  /-- The configuration can be used. -/
  valid : b.config.validate = .ok ()
  /-- There is a device context. -/
  acquired : b.driver.acquire.value = .ok device
  /-- There is an encoder. -/
  configured : (configure b.backend.hasEncoder (b.request width height)).value = .ok config

/-- The encoder is bound: the first three phases succeed, by these calls. -/
inductive Binds (b : SessionBuilder ε κ) (width height : UInt32) (format : SurfaceFormat)
    (bound : BoundEncoder ε) : List Call → Prop
  /-- The encoder is planned, and then bound to a pool. -/
  | intro {device : DeviceContext} {config : EncoderConfig}
      (plans : b.Plans width height device config)
      (bind : (b.backend.bind device config format.pixelFormat).value = .ok bound) :
      Binds b width height format bound
        (b.planCalls width height ++ (b.backend.bind device config format.pixelFormat).calls)

/-- A bound encoder was bound on a device that it was planned on. -/
theorem Binds.bound {b : SessionBuilder ε κ} {width height : UInt32} {format : SurfaceFormat}
    {bound : BoundEncoder ε} {calls : List Call} (h : b.Binds width height format bound calls) :
    ∃ device config, b.Plans width height device config ∧
      (b.backend.bind device config format.pixelFormat).value = .ok bound := by
  cases h with
  | intro plans bind => exact ⟨_, _, plans, bind⟩

/-- What starting a session does: these calls, and a session or the reason why there is none. -/
inductive StartedBy (b : SessionBuilder ε κ) (width height : UInt32) (format : SurfaceFormat)
    (now : Instant) : List Call → Started ε κ → Prop
  /-- The configuration cannot be used. -/
  | misconfigured {e : ConfigError} (invalid : b.config.validate = .error e) :
      StartedBy b width height format now [.release .container] (.failed (.config e) b.container)
  /-- There is no device context. -/
  | unacquired {e : DeviceError} (valid : b.config.validate = .ok ())
      (failed : b.driver.acquire.value = .error e) :
      StartedBy b width height format now (b.driver.acquire.calls ++ [.release .container])
        (.failed (.startup .acquireDevice (.device e)) b.container)
  /-- There is no encoder for the request. -/
  | unplanned {device : DeviceContext} {e : EncoderError} (valid : b.config.validate = .ok ())
      (acquired : b.driver.acquire.value = .ok device)
      (failed : (configure b.backend.hasEncoder (b.request width height)).value = .error e) :
      StartedBy b width height format now
        (b.planCalls width height ++ device.release.calls ++ [.release .container])
        (.failed (.startup .configureEncoder (.encoder e)) b.container)
  /-- The encoder is not bound. -/
  | unbound {device : DeviceContext} {config : EncoderConfig} {e : EncoderError}
      (plans : b.Plans width height device config)
      (failed : (b.backend.bind device config format.pixelFormat).value = .error e) :
      StartedBy b width height format now
        (b.planCalls width height ++ (b.backend.bind device config format.pixelFormat).calls ++
          [.release .container])
        (.failed (.startup .bindFrames (.encoder e)) b.container)
  /-- The stream is not published. -/
  | unpublished {before calls : List Call} {bound : BoundEncoder ε} {e : MuxError} {c : κ}
      (binds : b.Binds width height format bound before)
      (published : PublishedBy b.container bound.config (Encoder.extradata bound.encoder) calls
        (.error e, c)) :
      StartedBy b width height format now
        (before ++ calls ++ bound.releaseCalls ++ [.release .container])
        (.failed (.startup .publishStream (.mux e)) c)
  /-- The header is not written. -/
  | headerless {before calls : List Call} {bound : BoundEncoder ε} {stream : OutputStream}
      {c c' : κ} {f : Fault} (binds : b.Binds width height format bound before)
      (published : PublishedBy b.container bound.config (Encoder.extradata bound.encoder) calls
        (.ok stream, c))
      (header : Container.writeHeader c = (.error f, c')) :
      StartedBy b width height format now
        (before ++ calls ++ [.writeHeader (.error f)] ++ bound.releaseCalls ++
          [.release .container])
        (.failed (.startup .writeHeader (.mux (.headerFailed f))) c')
  /-- There is a session. -/
  | started {before calls : List Call} {bound : BoundEncoder ε} {stream : OutputStream} {c c' : κ}
      (binds : b.Binds width height format bound before)
      (published : PublishedBy b.container bound.config (Encoder.extradata bound.encoder) calls
        (.ok stream, c))
      (header : Container.writeHeader c = (.ok (), c')) :
      StartedBy b width height format now (before ++ calls ++ [.writeHeader (.ok ())])
        (.session ⟨c', stream, {}, bound, none, now⟩)

/-- The last two phases go one of the last three ways. -/
theorem openOutput_startedBy {b : SessionBuilder ε κ} {width height : UInt32}
    {format : SurfaceFormat} {bound : BoundEncoder ε} {before : List Call}
    (binds : b.Binds width height format bound before) (now : Instant) :
    b.StartedBy width height format now (before ++ (b.openOutput bound now).calls)
      (b.openOutput bound now).value := by
  have hp := publish_publishedBy b.container bound.config (Encoder.extradata bound.encoder)
  unfold openOutput
  generalize publish b.container bound.config (Encoder.extradata bound.encoder) = x at hp ⊢
  obtain ⟨⟨e | stream, c⟩, entries⟩ := x
  · simpa [abandon, announce] using StartedBy.unpublished binds hp
  · rcases hh : Container.writeHeader c with ⟨f | u, c'⟩
    · simpa [abandon, announce, hh] using StartedBy.headerless binds hp hh
    · simpa [announce, hh] using StartedBy.started binds hp hh

/-- A start goes one of these ways. -/
theorem start_startedBy (b : SessionBuilder ε κ) (width height : UInt32) (format : SurfaceFormat)
    (now : Instant) :
    b.StartedBy width height format now (b.start width height format now).calls
      (b.start width height format now).value := by
  -- One split for each phase, in their order.
  rcases hv : b.config.validate with e | u
  · simpa [start, hv] using StartedBy.misconfigured hv
  rcases ha : b.driver.acquire.value with e | device
  · simpa [start, hv, ha, abandon, announce] using StartedBy.unacquired hv ha
  rcases hc : (configure b.backend.hasEncoder (b.request width height)).value with e | config
  · simpa [start, hv, ha, hc, abandon, announce, planCalls] using StartedBy.unplanned hv ha hc
  have hplans : b.Plans width height device config := ⟨hv, ha, hc⟩
  rcases hb : (b.backend.bind device config format.pixelFormat).value with e | bound
  · simpa [start, hv, ha, hc, hb, abandon, announce, planCalls] using StartedBy.unbound hplans hb
  · simpa [start, hv, ha, hc, hb, announce, planCalls] using
      openOutput_startedBy (.intro hplans hb) now

end SessionBuilder

end Framecast

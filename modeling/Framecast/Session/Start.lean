import Framecast.Session.Basic

/-!
# Starting a session

Startup runs in five phases, each announced before its work begins. When one fails, what the earlier
ones acquired is let go in reverse order, the container last.
-/

namespace Framecast

open Journaled

/-- Announce a phase of startup. -/
def announce (phase : StartupPhase) (fields : List Field) : Journaled Unit := do
  happen (.startup phase)
  say .info .session phase.name fields

/-- A session, or why there is none; the container is given back as it was left. -/
inductive Started (ε κ : Type)
  | session (s : Session ε κ)
  | failed (e : SessionError) (container : κ)

/-- What a session is to be made of. -/
structure SessionBuilder (ε κ : Type) where
  driver : Driver
  backend : Backend ε
  container : κ
  config : SessionConfig

namespace SessionBuilder

variable {ε κ : Type} [Encoder ε] [Container κ]

/-- What is asked of the encoder for frames of a given size. -/
def request (b : SessionBuilder ε κ) (width height : UInt32) : EncoderRequest :=
  { tier := b.config.quality
    width
    height
    fps := b.config.fps
    family := b.config.codec
    globalHeader := Container.requiresGlobalHeader b.container }

/-- The session failed in a phase: let go of the container. -/
def abandon (container : κ) (phase : StartupPhase) (e : StageError) :
    Journaled (Started ε κ) := do
  Journaled.release .container
  return .failed (.startup phase e) container

/-- The last two phases, once the encoder is bound. -/
def openOutput (b : SessionBuilder ε κ) (bound : BoundEncoder ε) (now : Instant) :
    Journaled (Started ε κ) := do
  announce .publishStream []
  let (published, container) ←
    publish b.container bound.config (Encoder.extradata bound.encoder)
  match published with
  | .error e => do
    bound.release
    abandon container .publishStream (.mux e)
  | .ok stream => do
  announce .writeHeader []
  let (answer, container) := Container.writeHeader container
  call (.writeHeader answer)
  match answer with
  | .error f => do
    bound.release
    abandon container .writeHeader (.mux (.headerFailed f))
  | .ok () => do
  say .info .session "Session started"
    [⟨"encoder", .quoted (Encoder.name bound.encoder)⟩,
      ⟨"width", .nat bound.config.width.toNat⟩, ⟨"height", .nat bound.config.height.toNat⟩,
      ⟨"fps", .nat b.config.fps.toNat⟩]
  return .session ⟨container, stream, {}, bound, none, now⟩

/-- Start a session for frames of the given size and layout. A configuration that cannot be used is
refused before anything is touched. -/
def start (b : SessionBuilder ε κ) (width height : UInt32) (format : SurfaceFormat)
    (now : Instant) : Journaled (Started ε κ) :=
  within ⟨"session_start",
      [⟨"width", .nat width.toNat⟩, ⟨"height", .nat height.toNat⟩,
        ⟨"codec", .quoted b.config.codec.name⟩, ⟨"tier", .quoted b.config.quality.name⟩]⟩ do
    match b.config.validate with
    | .error e => do
      Journaled.release .container
      return .failed (.config e) b.container
    | .ok () => do
    announce .acquireDevice [⟨"driver", .quoted b.driver.name⟩]
    match ← b.driver.acquire with
    | .error e => abandon b.container .acquireDevice (.device e)
    | .ok device => do
    announce .configureEncoder []
    match ← configure b.backend.hasEncoder (b.request width height) with
    | .error e => do
      device.release
      abandon b.container .configureEncoder (.encoder e)
    | .ok config => do
    announce .bindFrames []
    match ← b.backend.bind device config format.pixelFormat with
    | .error e => abandon b.container .bindFrames (.encoder e)
    | .ok bound => b.openOutput bound now

end SessionBuilder

end Framecast

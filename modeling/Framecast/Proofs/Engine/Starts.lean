import Framecast.Proofs.Engine.Lives
import Framecast.Script.Pipeline

/-!
# Commands to start a session

What a command to start a session does depends on the state first, and then on the configuration.
A live engine ignores it, whatever it asks for. An engine that is idle or in the error state refuses
a configuration that cannot be used: it says why, and otherwise stays as it is. It launches a
session for any other configuration, once, and is live or in the error state after that. The
engines that come about in the life of an engine are settled (`Reached.settled`), so that there is
no other state to be in (`start_by_state`).
-/

namespace Framecast

open Journaled

/-- What waits for the application after an event was offered, which is lost if there is no room. -/
def Outbox.offered (o : Outbox) (event : Event) : Outbox :=
  if o.waiting.length < o.capacity then { o with waiting := o.waiting ++ [event] } else o

namespace Engine

variable {ℓ σ π : Type} {e : Engine ℓ σ π}

/-- Offering an event changes what waits for the application, and nothing else. -/
theorem value_offer_eq (e : Engine ℓ σ π) (event : Event) :
    (e.offer event).value = { e with outbox := e.outbox.offered event } := by
  unfold offer Outbox.offered
  split <;> rfl

/-- The state of an engine whose launch failed says why, and something can be done about it only if
the configuration was at fault. -/
theorem failedState_eq (x : SessionError) :
    ∃ recoverable, failedState x = .error x.message recoverable ∧
      (recoverable = true ↔ ∃ c, x = .config c) := by
  cases x with
  | config c => exact ⟨true, rfl, by simp⟩
  | _ => exact ⟨false, rfl, by simp⟩

variable [FrameSource σ] [Pipeline π] [Launcher ℓ σ π]

/-- The engines that come about between the steps in the life of an engine, while the application
takes the events that wait for it. -/
inductive Reached (launcher : ℓ) : Engine ℓ σ π → Prop
  /-- The engine has begun to run. -/
  | booted (outbox : Outbox) (start : Instant) :
      Reached launcher (new launcher outbox start).boot.value
  /-- It has taken a step, and goes on. -/
  | stepped {e e' : Engine ℓ σ π} (before : Reached launcher e) (s : Step) (now : Instant)
      (went : (e.step s now).value = (.waiting, e')) : Reached launcher e'
  /-- The application has taken the oldest events that wait. -/
  | heard {e : Engine ℓ σ π} (before : Reached launcher e) (n : Nat) :
      Reached launcher
        { e with outbox := { e.outbox with waiting := e.outbox.waiting.drop n } }

/-- An engine that is reached is settled. -/
theorem Reached.settled {launcher : ℓ} (h : Reached launcher e) : e.Settled := by
  induction h with
  | booted outbox start => exact boot_settled launcher outbox start
  | stepped _ s now went ih =>
    have hs := step_sound ih s now
    rw [went] at hs
    exact hs
  | heard _ _ ih => exact ih.congr rfl rfl

/-! ## One command -/

/-- A command to start a session is a step that starts one. -/
theorem step_start (e : Engine ℓ σ π) (config : SessionConfig) (now : Instant) :
    ∃ e', (e.step (.command (.start config)) now).value = (.waiting, e') ∧
      e.Starts config now (e.step (.command (.start config)) now).calls
        (e.step (.command (.start config)) now).events e' := by
  have hstarts := e.startSession_starts config now
  refine ⟨(e.startSession config now).value, by simp [step, handle], ?_⟩
  simpa [step, handle] using hstarts

/-- A live engine ignores a command to start a session. -/
theorem step_start_live (live : e.state.isLive = true) (config : SessionConfig) (now : Instant) :
    (e.step (.command (.start config)) now).calls = [] ∧
      (e.step (.command (.start config)) now).events = [] ∧
      (e.step (.command (.start config)) now).value = (.waiting, e) := by
  have hbusy : (e.state.isStarting || e.state.isLive || e.state.isStopping) = true := by
    simp [live]
  refine ⟨?_, ?_, ?_⟩ <;> simp [step, handle, startSession, hbusy]

/-- An engine that has no session refuses a configuration that cannot be used, and says why. -/
theorem step_start_invalid (free : e.isBusy = false) {config : SessionConfig} {x : ConfigError}
    (invalid : config.validate = .error x) (now : Instant) :
    (e.step (.command (.start config)) now).calls = [] ∧
      (e.step (.command (.start config)) now).events = [.error true x.message] ∧
      (e.step (.command (.start config)) now).value =
        (.waiting, { e with outbox := e.outbox.offered (.error true x.message) }) := by
  rw [isBusy] at free
  refine ⟨?_, ?_, ?_⟩
  · simp [step, handle, startSession, free, invalid]
  · simp [step, handle, startSession, free, invalid]
  · simp [step, handle, startSession, free, invalid, value_offer_eq]

/-- An engine that has no session launches one for a configuration that can be used. If the launch
succeeds the engine is live, and otherwise in the error state. -/
theorem step_start_valid (free : e.isBusy = false) {config : SessionConfig}
    (valid : config.validate = .ok ()) (now : Instant) :
    (e.step (.command (.start config)) now).calls = launchCalls e.launcher config now ∧
      (∀ launched launcher', (Launcher.launch e.launcher config now).value =
          (.ok launched, launcher') →
        ∃ e', (e.step (.command (.start config)) now).value = (.waiting, e') ∧
          e'.launcher = launcher' ∧ e'.state = .live config {} ∧
          e'.capture = some (begun launched config now)) ∧
      ∀ x launcher', (Launcher.launch e.launcher config now).value = (.error x, launcher') →
        ∃ e' recoverable, (e.step (.command (.start config)) now).value = (.waiting, e') ∧
          e'.launcher = launcher' ∧ e'.state = .error x.message recoverable ∧
          (recoverable = true ↔ ∃ c, x = .config c) ∧ e'.capture = e.capture := by
  obtain ⟨e', he', hstarts⟩ := e.step_start config now
  rw [he']
  generalize (e.step (.command (.start config)) now).calls = calls,
    (e.step (.command (.start config)) now).events = events at hstarts ⊢
  cases hstarts with
  | ignored busy =>
    rw [free] at busy
    cases busy
  | rejected _ invalid =>
    rw [valid] at invalid
    cases invalid
  | @failed x launcher o _ _ answer =>
    refine ⟨rfl, ?_, ?_⟩
    · intro launched launcher' h
      rw [answer] at h
      cases h
    · intro x' launcher' h
      rw [answer] at h
      cases h
      obtain ⟨recoverable, hstate, hiff⟩ := failedState_eq x
      exact ⟨_, recoverable, rfl, rfl, hstate, hiff, rfl⟩
  | @launched launched launcher o _ _ answer =>
    refine ⟨rfl, ?_, ?_⟩
    · intro launched' launcher' h
      rw [answer] at h
      cases h
      exact ⟨_, rfl, rfl, rfl, rfl⟩
    · intro x launcher' h
      rw [answer] at h
      cases h

/-- Whatever the life of an engine was, it is idle, live or in the error state when a command to
start a session comes. If it is live, nothing happens, whatever the configuration. If it is not and
the configuration cannot be used, nothing is called, and one error is offered, with the reason and
as one that something can be done about; nothing else changes but that it waits for the
application. If the configuration can be used, a session is launched, once. The engine is live after
a launch that succeeded, with the capture loop of that session. After one that failed it is in the
error state, without a capture loop, and something can be done about it exactly if the launch found
fault with the configuration. -/
theorem start_by_state (launcher : ℓ) (reached : Reached launcher e) (config : SessionConfig)
    (now : Instant) :
    (e.state.isIdle = true ∨ e.state.isLive = true ∨ e.state.isError = true) ∧
    (e.state.isLive = true →
      (e.step (.command (.start config)) now).calls = [] ∧
        (e.step (.command (.start config)) now).events = [] ∧
        (e.step (.command (.start config)) now).value = (.waiting, e)) ∧
    (e.state.isIdle = true ∨ e.state.isError = true →
      (∀ x, config.validate = .error x →
        (e.step (.command (.start config)) now).calls = [] ∧
          (e.step (.command (.start config)) now).events = [.error true x.message] ∧
          (e.step (.command (.start config)) now).value =
            (.waiting, { e with outbox := e.outbox.offered (.error true x.message) })) ∧
      (config.validate = .ok () →
        (e.step (.command (.start config)) now).calls =
            .launch config :: (Launcher.launch e.launcher config now).calls ∧
          match (Launcher.launch e.launcher config now).value with
          | (.ok launched, launcher') =>
            ∃ e', (e.step (.command (.start config)) now).value = (.waiting, e') ∧
              e'.launcher = launcher' ∧ e'.state = .live config {} ∧
              e'.capture = some (begun launched config now)
          | (.error x, launcher') =>
            ∃ e' recoverable, (e.step (.command (.start config)) now).value = (.waiting, e') ∧
              e'.launcher = launcher' ∧ e'.state = .error x.message recoverable ∧
              (recoverable = true ↔ ∃ c, x = .config c) ∧ e'.capture = none)) := by
  have hsettled := reached.settled
  refine ⟨hsettled.rests, fun live => step_start_live live config now, fun unused => ?_⟩
  -- An engine that rests and is not live is free to start, and holds no loop.
  have hunlive := SessionState.isLive_of_unused unused
  have hfree : e.isBusy = false := hsettled.isBusy_eq.trans hunlive
  refine ⟨fun x invalid => step_start_invalid hfree invalid now, fun valid => ?_⟩
  obtain ⟨hcalls, hlaunched, hfailed⟩ := step_start_valid hfree valid now
  refine ⟨hcalls, ?_⟩
  rcases hl : (Launcher.launch e.launcher config now).value with ⟨x | launched, launcher'⟩
  · have h := hfailed x launcher' hl
    rwa [hsettled.capture_eq_none hunlive] at h
  · exact hlaunched launched launcher' hl

/-- A launcher whose first launch finds fault with the configuration, and whose later ones
succeed. -/
def laterLauncher : ScriptedLauncher :=
  let script : LaunchScript :=
    { phases := []
      failure := none
      source := .ok ⟨64, 48, .bgra, [], none⟩
      pipeline := ⟨[], [], .ok ⟨0, 0, 0, false, .zero⟩⟩ }
  { next := { script with failure := some (.config (.invalid .urlBlank)) }, later := [script] }

/-- After a launch that found fault with the configuration, a configuration without a location is
refused with its reason; the launch after that goes live, and then the same configuration is
ignored. -/
theorem start_by_state_sample :
    let blank : SessionConfig := { outputUrl := "" }
    let failed := ((new laterLauncher {} ⟨0⟩).boot.value.step (.command (.start {})) ⟨0⟩).value.2
    let live := (failed.step (.command (.start {})) ⟨0⟩).value.2
    blank.validate = .error (.invalid .urlBlank) ∧ failed.state.isError = true ∧
      (failed.step (.command (.start blank)) ⟨0⟩).calls = [] ∧
      (failed.step (.command (.start blank)) ⟨0⟩).events =
        [.error true "Invalid configuration: output_url is empty"] ∧
      live.state.isLive = true ∧
      (live.step (.command (.start blank)) ⟨0⟩).calls = [] ∧
      (live.step (.command (.start blank)) ⟨0⟩).value = (.waiting, live) := by
  intro blank failed live
  have hblank : blank.validate = .error (.invalid .urlBlank) := rfl
  have herror : failed.state.isError = true := rfl
  have hlive : live.state.isLive = true := rfl
  have hfailed : Reached laterLauncher failed :=
    .stepped (.booted {} ⟨0⟩) (.command (.start {})) ⟨0⟩ rfl
  have hreached : Reached laterLauncher live := .stepped hfailed (.command (.start {})) ⟨0⟩ rfl
  obtain ⟨-, -, hunused⟩ := start_by_state laterLauncher hfailed blank ⟨0⟩
  obtain ⟨hcalls, hevents, -⟩ := (hunused (.inr herror)).1 _ hblank
  obtain ⟨-, hignored, -⟩ := start_by_state laterLauncher hreached blank ⟨0⟩
  obtain ⟨hcalls', -, hvalue⟩ := hignored hlive
  exact ⟨hblank, herror, hcalls, hevents, hlive, hcalls', hvalue⟩

end Engine

end Framecast

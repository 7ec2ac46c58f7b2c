import Framecast.Proofs.Engine.Starts

/-!
# Sessions whose end is not noticed

The loop of a session can end on its own. The engine looks for that only when no command came for a
while, and when it is told to end the session anyway. Between commands that follow each other
closely it does not look, so a session that is over goes on being live: to start another one is
ignored, and who asks for the state is told that a session is live (`unnoticed_until_idle`).
-/

namespace Framecast

open Journaled

/-- What the application is told in a heedless step of an engine in a live state. -/
def Step.reply? (state : SessionState) : Step → Option Event
  | .command .getState => some (.stateChanged state state)
  | _ => none

namespace Engine

variable {ℓ σ π : Type} [FrameSource σ] [Pipeline π] [Launcher ℓ σ π] {e : Engine ℓ σ π}

omit [FrameSource σ] [Pipeline π] [Launcher ℓ σ π] in
/-- A session that is over has a capture loop that has ended. -/
theorem ended_of_isOver (dead : e.isOver = true) :
    ∃ l, e.capture = some l ∧ l.ended.isSome = true := by
  cases hc : e.capture with
  | none => simp [isOver, hc] at dead
  | some l => exact ⟨l, rfl, by simpa [isOver, hc] using dead⟩

/-- A heedless step leaves a session alone that is over, and does nothing but to tell the state if
it is asked for. -/
theorem step_heedless (live : e.state.isLive = true) (dead : e.isOver = true) {s : Step}
    (heedless : s.isHeedless = true) (now : Instant) :
    (e.step s now).calls = [] ∧ (e.step s now).events = (s.reply? e.state).toList ∧
      ∃ o, (e.step s now).value = (.waiting, { e with outbox := o }) := by
  cases s with
  | command c =>
    cases c with
    | start config =>
      obtain ⟨hcalls, hevents, hvalue⟩ := step_start_live live config now
      exact ⟨hcalls, hevents, e.outbox, hvalue⟩
    | getState =>
      obtain ⟨o, ho⟩ := e.value_offer (.stateChanged e.state e.state)
      exact ⟨by simp [step, handle, sendState], by simp [step, handle, sendState, Step.reply?], o,
        by simp [step, handle, sendState, ho]⟩
    | _ => cases heedless
  | turn =>
    obtain ⟨l, hl, hended⟩ := ended_of_isOver dead
    -- A loop that has ended takes no more turns.
    have hturn : l.turn e.metrics e.shouldStop now = pure (l, e.metrics) := if_pos hended
    refine ⟨?_, ?_, e.outbox, ?_⟩
    · simp [step, hl, hturn]
    · simp [step, hl, hturn, Step.reply?]
    · simp only [step, hl, hturn, pure_bind, value_pure]
  | _ => cases heedless

/-- However many heedless steps follow each other, they leave a session alone that is over. -/
theorem run_heedless (live : e.state.isLive = true) (dead : e.isOver = true)
    {steps : List (Step × Instant)} (heedless : ∀ x ∈ steps, x.1.isHeedless = true) :
    (e.run steps).calls = [] ∧
      (e.run steps).events = steps.filterMap (fun x => x.1.reply? e.state) ∧
      ∃ o, (e.run steps).value = (.waiting, { e with outbox := o }) := by
  induction steps generalizing e with
  | nil => exact ⟨rfl, rfl, e.outbox, rfl⟩
  | cons x rest ih =>
    obtain ⟨s, now⟩ := x
    obtain ⟨hs, hrest⟩ := List.forall_mem_cons.mp heedless
    obtain ⟨hcalls, hevents, o, ho⟩ := step_heedless live dead hs now
    obtain ⟨hcalls', hevents', o', ho'⟩ := ih (e := { e with outbox := o }) live dead hrest
    refine ⟨?_, ?_, o', ?_⟩
    · simp [run, ho, hcalls, hcalls']
    · rw [run, events_bind, hevents, ho]
      change _ ++ (run { e with outbox := o } rest).events = _
      rw [hevents']
      cases hr : s.reply? e.state <;> simp [hr]
    · simp [run, ho, ho']

/-- A step that is not heedless ends a session that is over, if the engine goes on after it. -/
theorem step_heedful (dead : e.isOver = true) (live : e.state.isLive = true) {s : Step}
    (heedful : s.isHeedless = false) {now : Instant} {e' : Engine ℓ σ π}
    (went : (e.step s now).value = (.waiting, e')) :
    e'.state.isLive = false ∧ e'.capture = none := by
  have hheld : e.capture.isSome = true := by
    obtain ⟨l, hl, -⟩ := ended_of_isOver dead
    rw [hl]
    rfl
  have hacts := e.step_acts s now
  rw [went] at hacts
  generalize (e.step s now).calls = more, (e.step s now).events = events at hacts
  generalize hx : (Verdict.waiting, e') = x at hacts
  -- Whatever ends the session leaves the engine neither live nor with a loop.
  have hended : ∀ {r : Except Overflow Unit × Engine ℓ σ π} {calls events},
      e.Ends now calls events r → goOn r = (.waiting, e') →
        e'.state.isLive = false ∧ e'.capture = none := by
    rintro ⟨x | u, e₁⟩ calls events ends h
    · cases h
    · obtain rfl : e₁ = e' := (Prod.mk.inj h).2
      exact ⟨ends.isLive hheld, ends.capture⟩
  cases hacts with
  | started => cases heedful
  | stopped stops =>
    cases stops with
    | cleared error =>
      obtain ⟨message, recoverable, hs⟩ := SessionState.eq_error error
      rw [hs] at live
      cases live
    | ignored _ unlive =>
      rw [live] at unlive
      cases unlive
    | ended _ ends => exact hended ends hx.symm
  | asked => cases heedful
  | closed => cases hx
  | crashed => cases hx
  | tended tends =>
    cases tends with
    | noticed _ ends => exact hended ends hx.symm
    | quiet running | unfigured running | reported running =>
      rw [dead] at running
      cases running
  | unheld | turned | broke => cases heedful

/-- An engine that is not live launches a session if it is told to and the configuration can be
used. -/
theorem step_start_launches (settled : e.Settled) (unlive : e.state.isLive = false)
    {config : SessionConfig} (valid : config.validate = .ok ()) (now : Instant) :
    (e.step (.command (.start config)) now).calls = launchCalls e.launcher config now := by
  have hfree : e.isBusy = false := settled.isBusy_eq.trans unlive
  exact (step_start_valid hfree valid now).1

/-- When the loop of a session has ended on its own, the engine is live all the same, and goes on
being so however many commands to start a session and questions for the state follow each other: the
commands are ignored, and the answers say that the session is live. Any other step takes the session
down, unless the engine ends with it: after it the engine is not live, and launches a session when
it is told to. -/
theorem unnoticed_until_idle (launcher : ℓ) (outbox : Outbox) (start : Instant)
    {history : List (Step × Instant)} {e : Engine ℓ σ π}
    (ran : ((new launcher outbox start).boot.value.run history).value = (.waiting, e))
    (dead : e.isOver = true) :
    e.state.isLive = true ∧
    (∀ steps : List (Step × Instant), (∀ x ∈ steps, x.1.isHeedless = true) →
      (e.run steps).calls = [] ∧
        (e.run steps).events = steps.filterMap (fun x => x.1.reply? e.state) ∧
        ∃ o, (e.run steps).value = (.waiting, { e with outbox := o })) ∧
    ∀ s now e', s.isHeedless = false → (e.step s now).value = (.waiting, e') →
      e'.state.isLive = false ∧ e'.capture = none ∧
        ∀ config later, config.validate = .ok () →
          (e'.step (.command (.start config)) later).calls =
            launchCalls e'.launcher config later := by
  have hsettled : e.Settled := by
    have h := run_sound (boot_settled (σ := σ) (π := π) launcher outbox start) history
    rw [ran] at h
    exact h
  have hlive : e.state.isLive = true := by
    obtain ⟨l, hl, -⟩ := ended_of_isOver dead
    rw [← hsettled.held, hl]
    rfl
  refine ⟨hlive, fun steps heedless => run_heedless hlive dead heedless, ?_⟩
  intro s now e' heedful went
  obtain ⟨hunlive, hnone⟩ := step_heedful dead hlive heedful went
  have hsettled' : e'.Settled := by
    have h := step_sound hsettled s now
    rw [went] at h
    exact h
  exact ⟨hunlive, hnone, fun config later valid =>
    step_start_launches hsettled' hunlive valid later⟩

/-- A launcher of sessions whose source is lost at once. -/
def lostLauncher : ScriptedLauncher :=
  { next :=
      { phases := []
        failure := none
        source := .ok ⟨64, 48, .bgra, [.polled (.failed (.sourceLost "gone"))], none⟩
        pipeline := ⟨[], [], .ok ⟨0, 0, 0, false, .zero⟩⟩ }
    later := [] }

/-- A session whose source is lost stays live for one who asks for the state and starts another
session: nothing is launched, and the state is told as live. -/
theorem unnoticed_until_idle_sample :
    let ran := (new lostLauncher {} ⟨0⟩).boot.value.run
      [(.command (.start {}), ⟨0⟩), (.turn, ⟨0⟩)]
    let after := ran.value.2.run
      [(.command .getState, ⟨0⟩), (.command (.start {}), ⟨0⟩), (.command .getState, ⟨0⟩)]
    ran.value.2.isOver = true ∧ after.calls = [] ∧
      after.events = List.replicate 2 (.stateChanged (.live {} {}) (.live {} {})) := by
  intro ran after
  have hran : ran.value = (.waiting, ran.value.2) := rfl
  have hover : ran.value.2.isOver = true := rfl
  obtain ⟨-, hheedless, -⟩ := unnoticed_until_idle lostLauncher {} ⟨0⟩ hran hover
  obtain ⟨hcalls, hevents, -⟩ := hheedless
    [(.command .getState, ⟨0⟩), (.command (.start {}), ⟨0⟩), (.command .getState, ⟨0⟩)]
    (by simp [Step.isHeedless])
  exact ⟨hover, hcalls, hevents⟩

end Engine

end Framecast

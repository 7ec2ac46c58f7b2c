import Framecast.Proofs.Engine.Lives
import Framecast.Proofs.Engine.Quiet
import Mathlib.Data.List.Chain

/-!
# The states that the application is told of

The changes of state that an engine offers to the application make one unbroken path from the idle
state (`Trail`), and each is one of few (`Edge`), or the answer to a question for the state. What is
told in a run is told step by step (`told`), together with what the application cannot see: whether
the loop of the session had broken down.

The path within a step comes from the phases that a launch or an end announces: each follows from
the one before (`trail_along`). That holds whatever the driver, the encoder, the container and the
source do.
-/

namespace Framecast

open Journaled

/-- The changes of state of an engine, when the loop of its session had broken down or had not. -/
inductive Edge (broken : Bool) : SessionState → SessionState → Prop
  /-- A session is started. -/
  | begun : Edge broken .idle (.starting .acquireDevice)
  /-- A session is started after one that failed. -/
  | retried {message : String} {recoverable : Bool} :
      Edge broken (.error message recoverable) (.starting .acquireDevice)
  /-- The start goes on with its next phase. -/
  | starting {p q : StartupPhase} (next : p.next? = some q) :
      Edge broken (.starting p) (.starting q)
  /-- The last phase of the start succeeds. -/
  | live {config : SessionConfig} {figures : SessionStats} :
      Edge broken (.starting .writeHeader) (.live config figures)
  /-- The start fails. -/
  | unstarted {p : StartupPhase} {message : String} {recoverable : Bool} :
      Edge broken (.starting p) (.error message recoverable)
  /-- The session is to end. -/
  | stopping {config : SessionConfig} {figures : SessionStats} {reason : StopReason} :
      Edge broken (.live config figures) (.stopping reason .stopCapture)
  /-- The loop of the session has broken down. -/
  | lost {config : SessionConfig} {figures : SessionStats} {message : String} {recoverable : Bool}
      (lost : broken = true) : Edge broken (.live config figures) (.error message recoverable)
  /-- The end goes on with its next phase. -/
  | ending {reason : StopReason} {p q : ShutdownPhase} (next : p.next? = some q) :
      Edge broken (.stopping reason p) (.stopping reason q)
  /-- The session has ended well. -/
  | ended {reason : StopReason} : Edge broken (.stopping reason .releaseDevice) .idle
  /-- The session has failed. -/
  | failed {reason : StopReason} {message : String} {recoverable : Bool} :
      Edge broken (.stopping reason .releaseDevice) (.error message recoverable)
  /-- The error is cleared. -/
  | cleared {message : String} {recoverable : Bool} : Edge broken (.error message recoverable) .idle

/-- A change of state that the application is told of. -/
structure Told where
  previous : SessionState
  current : SessionState
  /-- It answers a question for the state. -/
  reply : Bool
  /-- The loop of the session had broken down before the step in which it is told. -/
  broken : Bool

/-- The states before and after a change. -/
def Told.change (t : Told) : SessionState × SessionState := (t.previous, t.current)

/-- What an application is told that leads from one state to another. -/
inductive Trail : SessionState → List Told → SessionState → Prop
  /-- It is told nothing. -/
  | nil {s : SessionState} : Trail s [] s
  /-- It is told the state that it asked for. -/
  | reply {s t : SessionState} {broken : Bool} {ts : List Told} (rest : Trail s ts t) :
      Trail s (⟨s, s, true, broken⟩ :: ts) t
  /-- It is told of a change. -/
  | change {s t u : SessionState} {broken : Bool} {ts : List Told} (edge : Edge broken s t)
      (rest : Trail t ts u) : Trail s (⟨s, t, false, broken⟩ :: ts) u

/-- One trail after the other is a trail. -/
theorem Trail.append {s t u : SessionState} {ts us : List Told} (h : Trail s ts t)
    (h' : Trail t us u) : Trail s (ts ++ us) u := by
  induction h with
  | nil => exact h'
  | reply _ ih => exact .reply (ih h')
  | change edge _ ih => exact .change edge (ih h')

/-- What the application is told by events, in answer to a question or not. -/
def toldBy (reply broken : Bool) (events : List Event) : List Told :=
  (events.filterMap Event.change?).map fun c => ⟨c.1, c.2, reply, broken⟩

section Told

variable {reply broken : Bool}

/-- Some events after others tell what both tell. -/
@[simp] theorem toldBy_append (events more : List Event) :
    toldBy reply broken (events ++ more) =
      toldBy reply broken events ++ toldBy reply broken more := by
  simp [toldBy]

/-- No event tells nothing. -/
@[simp] theorem toldBy_nil : toldBy reply broken [] = [] := rfl

/-- A change of state is told. -/
@[simp] theorem toldBy_stateChanged (s t : SessionState) (events : List Event) :
    toldBy reply broken (.stateChanged s t :: events) =
      ⟨s, t, reply, broken⟩ :: toldBy reply broken events := rfl

/-- Figures tell of no change. -/
@[simp] theorem toldBy_stats (figures : SessionStats) (events : List Event) :
    toldBy reply broken (.stats figures :: events) = toldBy reply broken events := rfl

/-- An error tells of no change. -/
@[simp] theorem toldBy_error (recoverable : Bool) (message : String) (events : List Event) :
    toldBy reply broken (.error recoverable message :: events) = toldBy reply broken events := rfl

/-- Warnings tell of no change. -/
@[simp] theorem toldBy_warnings (warnings : List Warning) :
    toldBy reply broken (warnings.map .warning) = [] := by
  induction warnings with
  | nil => rfl
  | cons w ws ih => exact ih

/-- A state that is entered is one change. -/
@[simp] theorem toldBy_entering (s t : SessionState) :
    toldBy reply broken (Engine.entering s t) = [⟨s, t, reply, broken⟩] := by
  cases t <;> rfl

end Told

namespace Engine

/-! ## Phases -/

section Phases

variable {φ : Type} {next? : φ → Option φ} {announce : φ → Happening} {state : φ → SessionState}
  {state? : Happening → Option SessionState} {b : Bool}

/-- Phases that follow each other make a trail, if each stands for a state that the one before may
change to. -/
theorem trail_along
    (follows : ∀ p q, next? p = some q → state? (announce q) = some (state q) ∧
      (announce q).event? = none ∧ Edge b (state p) (state q))
    (p : φ) (ps : List φ) (chain : List.IsChain (fun p q => next? p = some q) (p :: ps)) :
    reached state? (state p) (ps.map announce) = state (ps.getLastD p) ∧
      Trail (state p) (toldBy false b (along state? (state p) (ps.map announce)))
        (state (ps.getLastD p)) := by
  induction ps generalizing p with
  | nil => exact ⟨rfl, .nil⟩
  | cons q qs ih =>
    obtain ⟨hnext, hrest⟩ := List.isChain_cons_cons.mp chain
    obtain ⟨hstate, hevent, hedge⟩ := follows p q hnext
    obtain ⟨hreached, htrail⟩ := ih q hrest
    rw [List.getLastD_cons]
    refine ⟨?_, ?_⟩
    · simpa [reached, hstate] using hreached
    · simpa [along, hstate, hevent] using Trail.change hedge htrail

/-- Each phase of a start stands for its state, and follows the one before. -/
theorem starting_follows (p q : StartupPhase) (next : p.next? = some q) :
    startingState? (.startup q) = some (.starting q) ∧ (Happening.startup q).event? = none ∧
      Edge b (.starting p) (.starting q) := by
  cases q with
  | acquireDevice => cases p <;> cases next
  | _ => exact ⟨rfl, rfl, .starting next⟩

/-- Each phase of an end stands for its state, and follows the one before. -/
theorem stopping_follows (reason : StopReason) (p q : ShutdownPhase) (next : p.next? = some q) :
    stoppingState? reason (.shutdown q) = some (.stopping reason q) ∧
      (Happening.shutdown q).event? = none ∧ Edge b (.stopping reason p) (.stopping reason q) :=
  ⟨rfl, rfl, .ending next⟩

end Phases

variable {ε κ σ : Type} [Encoder ε] [Container κ] [QuietSource σ] {b : Bool}

omit [Encoder ε] [Container κ] [QuietSource σ] in
/-- A launch goes through no phase, or through phases that follow each other from the first one, and
through all of them if it succeeds. -/
theorem launchPhases_cases {α : Type} (r : Except SessionError α) :
    (SessionLauncher.launchPhases r = [] ∧ r.isOk = false) ∨
      ∃ ps, SessionLauncher.launchPhases r = .acquireDevice :: ps ∧
        List.IsChain (fun p q => StartupPhase.next? p = some q) (.acquireDevice :: ps) ∧
        (r.isOk = true → ps.getLastD .acquireDevice = .writeHeader) := by
  rcases r with e | a
  · cases e with
    | startup phase x =>
      refine .inr ⟨phase.upTo.tail, ?_, ?_, by simp [Except.isOk, Except.toBool]⟩
      · cases phase <;> rfl
      · cases phase <;> decide
    | _ => exact .inl ⟨rfl, rfl⟩
  · exact .inr ⟨StartupPhase.all.tail, rfl, by decide, fun _ => rfl⟩

/-- The phases that a launch announces lead to the last one by a trail, through all of them if it
succeeds. -/
theorem launch_trail (launcher : SessionLauncher ε κ σ) (config : SessionConfig) (now : Instant) :
    ∃ p, launchPhase launcher config now = .starting p ∧
      ((Launcher.launch launcher config now).value.1.isOk = true → p = .writeHeader) ∧
      Trail (.starting .acquireDevice)
        (toldBy false b (along startingState? (.starting .acquireDevice)
          (Launcher.launch launcher config now).tidings))
        (.starting p) := by
  have htidings : (Launcher.launch launcher config now).tidings =
      (SessionLauncher.launchPhases (Launcher.launch launcher config now).value.1).map .startup :=
    launcher.tidings_launch config now
  unfold launchPhase
  rw [htidings]
  generalize (Launcher.launch launcher config now).value.1 = r
  rcases launchPhases_cases r with ⟨hnone, hok⟩ | ⟨ps, hps, chain, hlast⟩
  · rw [hnone, hok]
    exact ⟨.acquireDevice, rfl, fun h => absurd h Bool.false_ne_true, .nil⟩
  · rw [hps]
    -- The first phase is announced, but its state has been entered before.
    obtain ⟨hreached, htrail⟩ := trail_along (b := b) starting_follows _ ps chain
    exact ⟨_, hreached, hlast, htrail⟩

omit [QuietSource σ] in
/-- The phases that an end announces lead to the last one by a trail, through all of them unless an
overflow cuts it short. -/
theorem finish_trail (l : CaptureLoop σ (Session ε κ)) (reason : StopReason) (now : Instant) :
    ∃ p, lastPhase l reason now = .stopping reason p ∧
      ((Pipeline.finish l.pipeline now).value.isOk = true → p = .releaseDevice) ∧
      Trail (.stopping reason .stopCapture)
        (toldBy false b (along (stoppingState? reason) (.stopping reason .stopCapture)
          (Pipeline.finish l.pipeline now).tidings))
        (.stopping reason p) := by
  have htidings := tidings_finish_pipeline l.pipeline now
  unfold lastPhase
  rw [htidings]
  generalize (Pipeline.finish l.pipeline now).value = r
  have chain : List.IsChain (fun p q => ShutdownPhase.next? p = some q)
      (.stopCapture :: Session.endPhases r) := by
    rcases r with x | result
    · rw [Session.endPhases]
      decide
    · rw [Session.endPhases]
      decide
  obtain ⟨hreached, htrail⟩ := trail_along (b := b) (stopping_follows reason) _ _ chain
  refine ⟨_, hreached, ?_, htrail⟩
  rcases r with x | result
  · intro h
    cases h
  · exact fun _ => rfl

/-! ## Steps -/

section Step

variable {e e' : Engine (SessionLauncher ε κ σ) σ (Session ε κ)} {now : Instant} {calls : List Call}
  {events : List Event}
  {r : Except Overflow Unit × Engine (SessionLauncher ε κ σ) σ (Session ε κ)}

/-- The loop of the session has broken down, and has not been joined. -/
def isBroken (e : Engine ℓ σ π) : Bool := e.capture.any fun l => l.ended = some .broken

/-- Starting a session leaves a trail. -/
theorem Starts.trail {config : SessionConfig} (h : e.Starts config now calls events e')
    (settled : e.Settled) : Trail e.state (toldBy false b events) e'.state := by
  -- An engine that is free to start a session is idle or in the error state.
  have hbegin : e.isBusy = false → Edge b e.state (.starting .acquireDevice) := by
    intro free
    have hrests := settled.rests
    simp only [isBusy, Bool.or_eq_false_iff] at free
    cases hs : e.state with
    | idle => exact .begun
    | error => exact .retried
    | _ => simp [hs, SessionState.isIdle, SessionState.isLive, SessionState.isError] at hrests free
  cases h with
  | ignored => exact .nil
  | rejected => exact .nil
  | @failed x launcher o free _ answer =>
    obtain ⟨p, hphase, -, htrail⟩ := launch_trail (b := b) e.launcher config now
    have hfail : Edge b (.starting p) (failedState x) := by
      cases x <;> exact .unstarted
    simpa [launchEvents, hphase] using
      (Trail.change (hbegin free) htrail).append (.change hfail .nil)
  | launched free _ answer =>
    obtain ⟨p, hphase, hlast, htrail⟩ := launch_trail (b := b) e.launcher config now
    obtain rfl := hlast (by rw [answer]; rfl)
    simpa [launchEvents, hphase] using
      (Trail.change (hbegin free) htrail).append (.change .live .nil)

/-- Taking a session down leaves a trail. -/
theorem TakesDown.trail {l : CaptureLoop σ (Session ε κ)} {reason : StopReason}
    (h : e.TakesDown l reason now calls events r) (live : e.state.isLive = true) :
    Trail e.state (toldBy false b events) r.2.state := by
  have hbegin : Edge b e.state (.stopping reason .stopCapture) := by
    obtain ⟨config, figures, hs⟩ := SessionState.eq_live live
    rw [hs]
    exact .stopping
  obtain ⟨p, hphase, hlast, htrail⟩ := finish_trail (b := b) l reason now
  cases h with
  | overflowed => simpa [takeDownEvents, hphase] using Trail.change hbegin htrail
  | unfigured => simpa [takeDownEvents, hphase] using Trail.change hbegin htrail
  | @concluded result figures o finished =>
    obtain rfl := hlast (by rw [finished]; rfl)
    have hend : Edge b (.stopping reason .releaseDevice) (verdict reason result) := by
      rcases result with x | summary
      · exact .failed
      · cases hf : reason.isFailure with
        | true => simpa [verdict, hf] using Edge.failed
        | false => simpa [verdict, hf] using Edge.ended
    simpa [takeDownEvents, hphase] using
      (Trail.change hbegin htrail).append (.change hend .nil)

/-- Ending the session of a live engine leaves a trail. -/
theorem Ends.trail (h : e.Ends now calls events r) (live : e.state.isLive = true) :
    Trail e.state (toldBy false e.isBroken events) r.2.state := by
  cases h with
  | free => exact .nil
  | lost capture broken =>
    have hbroken : e.isBroken = true := by
      rw [CaptureLoop.lastEnd_eq_broken] at broken
      simp [isBroken, capture, broken]
    have hlost : Edge e.isBroken e.state brokenState := by
      obtain ⟨config, figures, hs⟩ := SessionState.eq_live live
      rw [hs]
      exact .lost hbroken
    simpa using Trail.change hlost .nil
  | returned _ _ down => exact down.trail live

/-- Stopping on command leaves a trail. -/
theorem Stops.trail (h : e.Stops now calls events r) :
    Trail e.state (toldBy false e.isBroken events) r.2.state := by
  cases h with
  | cleared error =>
    have hclear : Edge e.isBroken e.state .idle := by
      obtain ⟨message, recoverable, hs⟩ := SessionState.eq_error error
      rw [hs]
      exact .cleared
    exact .change hclear .nil
  | ignored => exact .nil
  | ended live ends => exact ends.trail live

/-- Looking after a session leaves a trail. -/
theorem Tends.trail (h : e.Tends now calls events r) (settled : e.Settled) :
    Trail e.state (toldBy false e.isBroken events) r.2.state := by
  cases h with
  | noticed ended ends =>
    have hheld : e.capture.isSome = true := by
      cases hc : e.capture with
      | none => simp [isOver, hc] at ended
      | some l => rfl
    exact ends.trail (settled.held ▸ hheld)
  | quiet => exact .nil
  | unfigured => exact .nil
  | reported => simpa using Trail.nil

/-- It asks for the state. -/
def asks : Step → Bool
  | .command .getState => true
  | _ => false

/-- A step of a settled engine leaves a trail. -/
theorem Acts.trail {s : Step} {x : Verdict × Engine (SessionLauncher ε κ σ) σ (Session ε κ)}
    (h : e.Acts now s calls events x) (settled : e.Settled) :
    Trail e.state (toldBy (asks s) e.isBroken events) x.2.state := by
  cases h with
  | started starts => exact starts.trail settled
  | stopped stops =>
    rw [snd_goOn]
    exact stops.trail
  | asked => exact .reply .nil
  | @closed _ last _ _ _ _ farewell stops =>
    have hlast : asks s = false ∧ toldBy false e.isBroken last = [] := by
      obtain ⟨rfl, rfl⟩ | ⟨rfl, rfl⟩ := farewell_cases farewell
      · exact ⟨rfl, rfl⟩
      · exact ⟨rfl, rfl⟩
    rw [hlast.1, toldBy_append, hlast.2, List.append_nil]
    exact stops.trail
  | crashed farewell stops =>
    have hasks : asks s = false := by
      obtain ⟨rfl, -⟩ | ⟨rfl, -⟩ := farewell_cases farewell
      · rfl
      · rfl
    rw [hasks]
    exact stops.trail
  | tended tends =>
    rw [snd_goOn]
    exact tends.trail settled
  | unheld => exact .nil
  | turned =>
    rw [events_of_tidings (CaptureLoop.tidings_turn _ _ _ _)]
    exact .nil
  | broke =>
    rw [events_of_tidings (CaptureLoop.tidings_turn _ _ _ _)]
    exact .nil

end Step

/-! ## Runs -/

variable {e : Engine (SessionLauncher ε κ σ) σ (Session ε κ)}

/-- What the application is told in a run, step by step. -/
def told (e : Engine (SessionLauncher ε κ σ) σ (Session ε κ)) :
    List (Step × Instant) → List Told
  | [] => []
  | (s, now) :: rest =>
    toldBy (asks s) e.isBroken (e.step s now).events ++
      match (e.step s now).value with
      | (.waiting, e) => e.told rest
      | _ => []

/-- A run of a settled engine leaves a trail. -/
theorem run_trail (settled : e.Settled) (steps : List (Step × Instant)) :
    Trail e.state (e.told steps) (e.run steps).value.2.state := by
  induction steps generalizing e with
  | nil => exact .nil
  | cons x rest ih =>
    obtain ⟨s, now⟩ := x
    have hstep := (e.step_acts s now).trail settled
    have hsound := step_sound settled s now
    rw [run, value_bind, told]
    generalize (e.step s now).value = y at hstep hsound ⊢
    rcases y with ⟨_ | _ | _, e'⟩
    · exact hstep.append (ih hsound)
    · rw [List.append_nil]
      exact hstep
    · rw [List.append_nil]
      exact hstep

/-- What the application is told are the changes of state among the events of a run. -/
theorem run_told (e : Engine (SessionLauncher ε κ σ) σ (Session ε κ))
    (steps : List (Step × Instant)) :
    (e.run steps).events.filterMap Event.change? = (e.told steps).map Told.change := by
  induction steps generalizing e with
  | nil => rfl
  | cons x rest ih =>
    obtain ⟨s, now⟩ := x
    have hstep : (toldBy (asks s) e.isBroken (e.step s now).events).map Told.change =
        (e.step s now).events.filterMap Event.change? := by
      simp [toldBy, Function.comp_def, Told.change]
    rw [run, events_bind, told, List.filterMap_append, List.map_append, hstep]
    rcases (e.step s now).value with ⟨_ | _ | _, e'⟩
    · rw [ih]
    · rfl
    · rfl

/-- Letting go of an engine tells nothing and leaves its state alone. -/
theorem Drops.silent {e e' : Engine (SessionLauncher ε κ σ) σ (Session ε κ)} {now : Instant}
    {calls : List Call} {events : List Event} (h : e.Drops now calls events e') :
    events = [] ∧ e'.state = e.state := by
  cases h with
  | free => exact ⟨rfl, rfl⟩
  | lost => exact ⟨rfl, rfl⟩
  | returned =>
    refine ⟨?_, rfl⟩
    simp [Journaled.events, tidings_finish_pipeline, List.filterMap_map, Happening.event?]

/-- The changes of state that an engine over a launcher of sessions offers to the application in its
life are a trail from the idle state to the one that it is left in: each begins where the one before
ended, and is one of the changes that an engine goes through, or the answer to a question. -/
theorem life_trail (launcher : SessionLauncher ε κ σ) (outbox : Outbox) (start : Instant)
    (steps : List (Step × Instant)) (last : Instant) :
    (life launcher outbox start steps last).events.filterMap Event.change? =
        ((new launcher outbox start).boot.value.told steps).map Told.change ∧
      Trail .idle ((new launcher outbox start).boot.value.told steps)
        (life launcher outbox start steps last).value.2.state := by
  have hboot : (new launcher outbox start : Engine _ σ (Session ε κ)).boot.events = [.ready] := by
    simp [boot]
  have hidle : (new launcher outbox start : Engine _ σ (Session ε κ)).boot.value.state = .idle := by
    simp [boot, new]
  have htrail := run_trail (boot_settled (σ := σ) (π := Session ε κ) launcher outbox start) steps
  have htold := (new launcher outbox start : Engine _ σ (Session ε κ)).boot.value.run_told steps
  obtain ⟨hsilent, hstate⟩ :=
    (((new launcher outbox start : Engine _ σ (Session ε κ)).boot.value.run
      steps).value.2.release_drops last).silent
  rw [hidle] at htrail
  refine ⟨?_, ?_⟩
  · have hready : Event.ready.change? = none := rfl
    simpa [life, hboot, hsilent, List.filterMap_cons, hready] using htold
  · rw [← hstate] at htrail
    exact htrail

end Engine

end Framecast

import Framecast.Proofs.Engine.Counters
import Framecast.Proofs.Engine.Lives
import Framecast.Proofs.Session.Announced
import Framecast.Proofs.Session.Run
import Framecast.Proofs.Session.Sample

/-!
# What decides how a session ends

A capture loop meets one thing after the other: no frame, a frame and the answer to it, the end of
its source (`Encounter`). Most of them it takes in its stride, and the first one that it does not
decides how the loop ends (`Encounter.fate`). So the way in which a session ends is known from what
its loop has met since the launch, and from what finishing the pipeline gives (`complaint`): the
engine comes to rest, or it enters the error state and reports that error, and no other
(`verdict_of_encounters`).
-/

namespace Framecast

open Journaled

/-- An error is reported. -/
def Event.isError : Event → Bool
  | .error _ _ => true
  | _ => false

/-! ## The encounters of a loop -/

/-- What a capture loop that runs meets in a turn. -/
inductive Encounter
  /-- It is told to stop. -/
  | told
  /-- No frame comes in time. -/
  | nothing
  /-- The source has no more frames. -/
  | lost (e : CaptureError)
  /-- A frame is submitted, and this is the answer. -/
  | answered (answer : Except SessionError DrainReport)
  /-- The source breaks down, or arithmetic overflows. -/
  | broken

/-- How the loop ends by what it meets, if it does. -/
def Encounter.fate : Encounter → Option LoopEnd
  | told => some (.returned .userRequested)
  | nothing => none
  | lost .stopped => some (.returned .userRequested)
  | lost e => some (.returned (.captureLost e.message))
  | answered (.ok ⟨_, _, _, .endOfStream⟩) => some (.returned .endOfStream)
  | answered (.ok _) => none
  | answered (.error (.invalidFrame _)) => none
  | answered (.error (.encoder (.sendFailed _))) => none
  | answered (.error (.mux .encoderTerminated)) => some (.returned .endOfStream)
  | answered (.error e) => some (.returned (.encoderError e.message))
  | broken => some .broken

/-- How a loop ends that has met all this: by the first encounter that ends a loop, or else because
it is told to stop. -/
def lastFate (met : List Encounter) : LoopEnd :=
  (met.findSome? Encounter.fate).getD (.returned .userRequested)

/-- What there is to complain of when a session ends: how its loop ended, or that the pipeline could
not be finished. Only a loop that breaks down leaves no pipeline to finish. -/
def complaint : LoopEnd → Except SessionError SessionSummary → Option String
  | .broken, _ => some "Capture loop panicked"
  | .returned _, .error x => some x.message
  | .returned .userRequested, .ok _ => none
  | .returned .endOfStream, .ok _ => none
  | .returned reason, .ok _ => some reason.message

/-- A loop that is told to stop returns. -/
@[simp] theorem Encounter.fate_told : told.fate = some (.returned .userRequested) := rfl

/-- A loop that gets no frame goes on. -/
@[simp] theorem Encounter.fate_nothing : nothing.fate = none := rfl

/-- A loop that breaks down ends so. -/
@[simp] theorem Encounter.fate_broken : broken.fate = some .broken := rfl

/-- An answer to a frame ends the loop as the loop has it. -/
theorem Encounter.fate_answered (answer : Except SessionError DrainReport) :
    (answered answer).fate = CaptureLoop.endAfter answer := by
  rcases answer with e | ⟨written, bytes, failures, outcome⟩
  · cases e with
    | encoder e => cases e <;> rfl
    | mux e => cases e <;> rfl
    | _ => rfl
  · cases outcome <;> rfl

/-- A source without frames ends the loop as the loop has it. -/
theorem Encounter.fate_lost (e : CaptureError) :
    (lost e).fate = some (.returned (CaptureLoop.lossReason e)) := by
  cases e <;> rfl

namespace CaptureLoop

variable {σ π : Type} [FrameSource σ] [Pipeline π]

/-- What a loop meets that asks its source for a frame. -/
def pollEncounter (l : CaptureLoop σ π) : Encounter :=
  match (FrameSource.nextFrame l.source l.interval).value.1 with
  | .nothing => .nothing
  | .failed e => .lost e
  | .broken => .broken
  | .frame f =>
    match (Pipeline.submit l.pipeline f).value.1 with
    | .ok answer => .answered answer
    | .error _ => .broken

/-- What a loop meets in a turn, if it runs. -/
def encounter (l : CaptureLoop σ π) (m : Metrics) (stop : Bool) (now : Instant) :
    Option Encounter :=
  if l.ended.isSome then none
  else if stop then some .told
  else
    match (l.logStatus m now).value with
    | .error _ => some .broken
    | .ok l => some l.pollEncounter

/-- Asking for a frame ends a loop by what it meets. -/
theorem ended_poll (l : CaptureLoop σ π) (m : Metrics) (running : l.ended = none) :
    (l.poll m).value.1.ended = l.pollEncounter.fate := by
  rcases hp : (FrameSource.nextFrame l.source l.interval).value with ⟨f | _ | e | _, source⟩
  · rcases take_cases { l with source } m f running with
      ⟨x, pipeline, hs, -, hv⟩ | ⟨answer, pipeline, received, dropped, hs, -, hv⟩
    · simp [poll, pollEncounter, hp, hs, hv]
    · simp [poll, pollEncounter, hp, hs, hv, Encounter.fate_answered]
  · simp [poll, pollEncounter, hp, running]
  · cases e <;> simp [poll, pollEncounter, hp, finish, Encounter.fate_lost, lossReason]
  · simp [poll, pollEncounter, hp, breakDown]

/-- A turn ends a loop by what it meets, if it has not ended before. -/
theorem ended_turn (l : CaptureLoop σ π) (m : Metrics) (stop : Bool) (now : Instant) :
    (l.turn m stop now).value.1.ended =
      l.ended.or ((l.encounter m stop now).bind Encounter.fate) := by
  cases he : l.ended with
  | some ended => simp [turn, he]
  | none =>
    cases stop with
    | true => simp [turn, encounter, he, finish]
    | false =>
      obtain ⟨-, ⟨x, -, hv⟩ | ⟨t, hv⟩⟩ := l.logStatus_cases m now
      · simp [turn, encounter, he, hv, breakDown]
      · have hpoll := { l with lastStatus := t }.ended_poll m he
        simpa [turn, encounter, he, hv] using hpoll

end CaptureLoop

/-! ## The encounters of a session -/

/-- A pipeline that works for the session: it may announce phases when it is finished, but it offers
the application no events of its own. -/
class QuietPipeline (π : Type) [Pipeline π] : Prop where
  /-- Finished, it offers no event. -/
  events_finish : ∀ (p : π) now, (Pipeline.finish p now).events = []

/-- A session is a quiet pipeline. -/
instance {ε κ : Type} [Encoder ε] [Container κ] : QuietPipeline (Session ε κ) where
  events_finish s now := by
    change (Finished.result <$> s.finish now).events = []
    rw [events_map, events, s.tidings_finish now, List.filterMap_map, List.filterMap_eq_nil_iff]
    exact fun _ _ => rfl

/-- Announcing phases offers no event. -/
theorem ScriptedPipeline.events_announceAll (phases : List ShutdownPhase) :
    (announceAll .shutdown phases).events = [] := by
  induction phases with
  | nil => rfl
  | cons phase phases ih =>
    rw [announceAll, events_bind, ih]
    rfl

/-- A scripted pipeline is quiet. -/
instance : QuietPipeline ScriptedPipeline where
  events_finish p now := by
    change (.ok <$> p.finish : Journaled (Except Overflow _)).events = []
    rw [events_map, ScriptedPipeline.finish, events_bind, events_bind,
      ScriptedPipeline.events_announceAll]
    rfl

namespace Engine

variable {ℓ σ π : Type}

section Met

variable [FrameSource σ] [Pipeline π] [Launcher ℓ σ π]

/-- What the loop of the session meets in a step. -/
def meets (e : Engine ℓ σ π) : Step → Instant → Option Encounter
  | .turn, now => e.capture.bind fun l => l.encounter e.metrics e.shouldStop now
  | _, _ => none

/-- What the loop of the session has met since it was launched, after more steps. -/
def met (e : Engine ℓ σ π) (before : List Encounter) : List (Step × Instant) → List Encounter
  | [] => before
  | (s, now) :: rest =>
    (e.step s now).value.2.met
      (if e.capture.isNone then [] else before ++ (e.meets s now).toList) rest

/-- The loop has ended exactly if something that it has met ends a loop, and by the first such
thing. -/
def Fated (met : List Encounter) (e : Engine ℓ σ π) : Prop :=
  ∀ l, e.capture = some l → l.ended = met.findSome? Encounter.fate

omit [FrameSource σ] [Pipeline π] [Launcher ℓ σ π] in
/-- Without a loop, nothing is to be decided. -/
theorem Fated.of_none {e : Engine ℓ σ π} {met : List Encounter} (h : e.capture = none) :
    Fated met e := by
  intro l hl
  rw [h] at hl
  cases hl

omit [FrameSource σ] [Pipeline π] [Launcher ℓ σ π] in
/-- The loop of a session that is launched has not ended. -/
theorem Fated.launched {e : Engine ℓ σ π} {launched : Launched σ π} {config : SessionConfig}
    {now : Instant} (h : e.capture = some (begun launched config now)) : Fated [] e := by
  intro l hl
  rw [h] at hl
  obtain rfl := Option.some.inj hl
  rfl

/-- A turn of the loop decides how it ends by what it meets. -/
theorem Fated.turn {e : Engine ℓ σ π} {before : List Encounter} (h : Fated before e)
    (now : Instant) :
    Fated (before ++ (e.meets .turn now).toList) (e.step .turn now).value.2 := by
  cases hc : e.capture with
  | none =>
    have hstep : (e.step .turn now).value.2 = e := by simp [step, hc]
    rw [hstep]
    exact .of_none hc
  | some l =>
    intro l' hl'
    obtain rfl : (l.turn e.metrics e.shouldStop now).value.1 = l' := by simpa [step, hc] using hl'
    rw [l.ended_turn, h l hc, List.findSome?_append]
    congr 1
    simp only [meets, hc, Option.bind_some]
    cases l.encounter e.metrics e.shouldStop now with
    | none => rfl
    | some met => cases hf : met.fate <;> simp [hf]

/-- A step of a settled engine decides how its loop ends by what the loop meets. -/
theorem Fated.step {e : Engine ℓ σ π} {before : List Encounter} (h : Fated before e)
    (settled : e.Settled) (s : Step) (now : Instant) :
    Fated (if e.capture.isNone then [] else before ++ (e.meets s now).toList)
      (e.step s now).value.2 := by
  by_cases hs : s = .turn
  · subst hs
    cases hc : e.capture with
    | none => exact .of_none (by simp [Engine.step, hc])
    | some l =>
      have hturn := h.turn now
      simpa [hc] using hturn
  · have hnone : e.meets s now = none := by cases s <;> first | rfl | exact absurd rfl hs
    obtain hkept | hgone | ⟨free, launched, config, hnew⟩ := (e.step_acts s now).capture_cases hs
    · intro l hl
      rw [hkept] at hl
      rw [hl, hnone]
      simpa using h l hl
    · exact .of_none hgone
    · rw [settled.capture_of_free free]
      exact .launched hnew

/-- A run of a settled engine decides how its loop ends by what the loop meets. -/
theorem Fated.run {e e' : Engine ℓ σ π} {before : List Encounter} (h : Fated before e)
    (settled : e.Settled) {steps : List (Step × Instant)}
    (ran : (e.run steps).value = (.waiting, e')) : Fated (e.met before steps) e' := by
  induction steps generalizing e before with
  | nil =>
    obtain rfl : e = e' := (Prod.ext_iff.mp ran).2
    exact h
  | cons x rest ih =>
    obtain ⟨s, now⟩ := x
    have hstep := h.step settled s now
    have hsound := step_sound settled s now
    rw [Engine.run, value_bind] at ran
    rw [met]
    generalize (e.step s now).value = y at hstep hsound ran ⊢
    rcases y with ⟨_ | _ | _, e₁⟩
    · exact ih hstep hsound ran
    · cases ran
    · cases ran

end Met

/-! ## The end of a session -/

/-- What a session tells at its end that has this to complain of, and the state that it leads to. -/
inductive Concluded : Option String → SessionState → List Event → Prop
  /-- The engine comes to rest, and no error is reported. -/
  | well {before after : List Event} {previous : SessionState}
      (calm : ∀ event ∈ before ++ after, event.isError = false) :
      Concluded none .idle (before ++ .stateChanged previous .idle :: after)
  /-- The engine enters the error state for good and reports the error at once, and no other. -/
  | badly {message : String} {before after : List Event} {previous : SessionState}
      (calm : ∀ event ∈ before ++ after, event.isError = false) :
      Concluded (some message) (.error message false)
        (before ++ .stateChanged previous (.error message false) :: .error false message :: after)

/-- What is told after the end of a session may be anything but an error. -/
theorem Concluded.append {c : Option String} {state : SessionState} {events more : List Event}
    (h : Concluded c state events) (calm : ∀ event ∈ more, event.isError = false) :
    Concluded c state (events ++ more) := by
  cases h with
  | @well before after previous calm' =>
    rw [List.append_assoc, List.cons_append]
    refine .well ?_
    rw [← List.append_assoc]
    exact List.forall_mem_append.mpr ⟨calm', calm⟩
  | @badly message before after previous calm' =>
    rw [List.append_assoc, List.cons_append, List.cons_append]
    refine .badly ?_
    rw [← List.append_assoc]
    exact List.forall_mem_append.mpr ⟨calm', calm⟩

/-- A loop that breaks down is an error to the session. -/
theorem concluded_broken (previous : SessionState) (result : Except SessionError SessionSummary) :
    Concluded (complaint .broken result) brokenState (entering previous brokenState) := by
  have hcalm : ∀ event ∈ ([] : List Event) ++ [], event.isError = false := by simp
  exact .badly hcalm

/-- A session whose loop returns leads to the state that its complaint calls for. -/
theorem concluded_returned {before : List Event} (calm : ∀ event ∈ before, event.isError = false)
    (previous : SessionState) (reason : StopReason)
    (result : Except SessionError SessionSummary) :
    Concluded (complaint (.returned reason) result) (verdict reason result)
      (before ++ entering previous (verdict reason result)) := by
  have hcalm : ∀ event ∈ before ++ [], event.isError = false := by simpa using calm
  rcases result with x | summary
  · exact .badly hcalm
  · cases reason with
    | userRequested => exact .well hcalm
    | endOfStream => exact .well hcalm
    | _ => exact .badly hcalm

/-- Following announcements that come with no events reports no error. -/
theorem calm_along (state? : Happening → Option SessionState) (state : SessionState)
    {tidings : List Happening} (quiet : tidings.filterMap Happening.event? = []) :
    ∀ event ∈ along state? state tidings, event.isError = false := by
  induction tidings generalizing state with
  | nil => simp [along]
  | cons h hs ih =>
    obtain ⟨hh, hhs⟩ := List.filterMap_eq_nil_iff.mp quiet |> List.forall_mem_cons.mp
    have hrest := fun state => ih state (List.filterMap_eq_nil_iff.mpr hhs)
    rw [along, hh]
    cases state? h with
    | none => exact hrest state
    | some next => exact List.forall_mem_cons.mpr ⟨rfl, hrest next⟩

section Conclusion

variable [FrameSource σ] [Pipeline π] [QuietPipeline π]

omit [FrameSource σ] in
/-- No error is reported along the end of a session. -/
theorem calm_takeDownEvents (e : Engine ℓ σ π) (l : CaptureLoop σ π) (reason : StopReason)
    (now : Instant) : ∀ event ∈ e.takeDownEvents l reason now, event.isError = false :=
  List.forall_mem_cons.mpr ⟨rfl, calm_along _ _ (QuietPipeline.events_finish l.pipeline now)⟩

/-- A session ends by an overflow, or as the end of its loop and the answer of its pipeline call
for. -/
theorem Ends.verdict {e : Engine ℓ σ π} {now : Instant} {calls : List Call} {events : List Event}
    {r : Except Overflow Unit × Engine ℓ σ π} (h : e.Ends now calls events r)
    {l : CaptureLoop σ π} (held : e.capture = some l) :
    (∃ x, r.1 = .error x ∧ l.ended ≠ some .broken ∧
      ((Pipeline.finish l.pipeline now).value = .error x ∨ e.metrics.snapshot now = .error x)) ∨
    r.1 = .ok () ∧ ∃ result,
      (l.ended ≠ some .broken → (Pipeline.finish l.pipeline now).value = .ok result) ∧
        Concluded (complaint l.lastEnd result) r.2.state events := by
  cases h with
  | free capture =>
    rw [held] at capture
    cases capture
  | lost capture broken =>
    obtain rfl := Option.some.inj (held.symm.trans capture)
    have hbroken := CaptureLoop.lastEnd_eq_broken.mp broken
    refine .inr ⟨rfl, .error (.capture .stopped), fun unbroken => absurd hbroken unbroken, ?_⟩
    rw [broken]
    exact concluded_broken _ _
  | @returned _ reason _ _ _ capture returned down =>
    obtain rfl := Option.some.inj (held.symm.trans capture)
    have hunbroken : l.ended ≠ some .broken := by
      rw [Ne, ← CaptureLoop.lastEnd_eq_broken, returned]
      simp
    cases down with
    | overflowed finished => exact .inl ⟨_, rfl, hunbroken, .inl finished⟩
    | unfigured _ overflow => exact .inl ⟨_, rfl, hunbroken, .inr overflow⟩
    | @concluded result figures o finished figured =>
      refine .inr ⟨rfl, result, fun _ => finished, ?_⟩
      rw [returned, List.append_cons]
      refine concluded_returned (List.forall_mem_append.mpr ⟨calm_takeDownEvents _ _ _ _, ?_⟩) _ _ _
      simp [Event.isError]

variable [Launcher ℓ σ π]

/-- How a session ends is decided by the first thing that its loop met since the launch and that
ends a loop. Only a loop that has met none is let go of on command, and that decides. Then, unless
arithmetic overflows while the session is taken down whose loop has returned, the engine comes to
rest if the loop was told to stop or met the end of the stream, and its pipeline is finished well.
In all other cases it enters the error state for good: with the error of the pipeline, or else with
what ended the loop. The error is reported at once, and no other error is. -/
theorem verdict_of_encounters (launcher : ℓ) (outbox : Outbox) (start : Instant)
    {steps : List (Step × Instant)} {e : Engine ℓ σ π}
    (ran : ((new launcher outbox start).boot.value.run steps).value = (.waiting, e))
    {l : CaptureLoop σ π} (held : e.capture = some l) {s : Step} {now : Instant}
    (ended : (e.step s now).value.2.capture = none) :
    let met := (new launcher outbox start).boot.value.met [] steps
    l.ended = met.findSome? Encounter.fate ∧
    (l.ended = none → s = .command .stop ∨ s = .command .shutdown ∨ s = .disconnected) ∧
    ((∃ x, (e.step s now).value.1 = .failed x ∧ l.ended ≠ some .broken ∧
        ((Pipeline.finish l.pipeline now).value = .error x ∨
          x = .multiplication ∧ UInt64.size ≤ e.metrics.bytesWritten.toNat * 8)) ∨
      ∃ result, (l.ended ≠ some .broken → (Pipeline.finish l.pipeline now).value = .ok result) ∧
        Concluded (complaint (lastFate met) result) (e.step s now).value.2.state
          (e.step s now).events) := by
  intro met
  -- The loop has ended by what it met first: so it was at the beginning, and each step keeps it.
  have hfated : l.ended = met.findSome? Encounter.fate := by
    obtain ⟨o, ho⟩ := value_boot (new launcher outbox start : Engine ℓ σ π)
    have hbegin : Fated [] (new launcher outbox start : Engine ℓ σ π).boot.value :=
      .of_none (by rw [ho]; rfl)
    exact hbegin.run (boot_settled launcher outbox start) ran l held
  obtain ⟨shown, last, r, ends, hevents, hlast, hstate, hfailed, hcommand⟩ :=
    (e.step_acts s now).ends_of_held held ended
  refine ⟨hfated, fun running => ?_, ?_⟩
  · obtain hs | hs := hcommand running
    · exact .inl hs
    · obtain ⟨last, hlast⟩ := Option.isSome_iff_exists.mp hs
      exact .inr ((farewell_cases hlast).imp And.left And.left)
  · have hfate : lastFate met = l.lastEnd := by rw [lastFate, ← hfated]; rfl
    obtain ⟨x, hx, hunbroken, hoverflow⟩ | ⟨-, result, hfinished, hconcluded⟩ := ends.verdict held
    · exact .inl ⟨x, (hfailed x).mpr hx, hunbroken,
        hoverflow.imp_right Metrics.overflow_of_snapshot⟩
    · refine .inr ⟨result, hfinished, ?_⟩
      rw [hfate, hstate, hevents]
      refine hconcluded.append ?_
      obtain rfl | rfl := hlast <;> simp [Event.isError]

end Conclusion

/-- A launcher of a session that is answered one frame like this and then loses its source. -/
def losingLauncher (answer : Except SessionError DrainReport) : ScriptedLauncher :=
  { next :=
      { phases := []
        failure := none
        source := .ok
          { width := 64
            height := 48
            format := .bgra
            cues := [.polled (.frame (sampleFrame .zero)), .polled (.failed (.sourceLost "gone"))]
            stopError := none }
        pipeline := ⟨[answer], ShutdownPhase.all.tail, .ok ⟨1, 1, 0, false, .zero⟩⟩ }
    later := [] }

/-- A session is started, and its loop takes two turns. -/
def twoTurns : List (Step × Instant) :=
  [(.command (.start {}), ⟨0⟩), (.turn, ⟨0⟩), (.turn, ⟨0⟩)]

/-- A frame that the encoder refuses does not end a session, and a source that is lost does, also if
the session is told to stop afterwards. -/
theorem verdict_of_encounters_sample :
    let launcher := losingLauncher (.error (.encoder (.sendFailed ⟨-1, "busy"⟩)))
    let ran := (new launcher {} ⟨0⟩).boot.value.run twoTurns
    Concluded (some "Capture lost: Capture source lost: gone")
      (ran.value.2.step (.command .stop) ⟨0⟩).value.2.state
      (ran.value.2.step (.command .stop) ⟨0⟩).events := by
  intro launcher ran
  have hran : ran.value = (.waiting, ran.value.2) := rfl
  -- The loop has returned by then, and its pipeline is going to be finished well.
  obtain ⟨l, hheld, hl⟩ := Option.map_eq_some_iff.mp
    (show ran.value.2.capture.map (fun l => (l.ended, (Pipeline.finish l.pipeline ⟨0⟩).value)) =
      some (some (.returned (.captureLost "Capture source lost: gone")),
        .ok (.ok ⟨1, 1, 0, false, .zero⟩)) from rfl)
  obtain ⟨hreturned, hfinish⟩ := Prod.mk.inj hl
  have hended : (ran.value.2.step (.command .stop) ⟨0⟩).value.2.capture = none :=
    Option.isNone_iff_eq_none.mp (by decide +kernel)
  have hwaiting : (ran.value.2.step (.command .stop) ⟨0⟩).value.1 = .waiting := by decide +kernel
  have hfate : lastFate ((new launcher {} ⟨0⟩).boot.value.met [] twoTurns) =
      .returned (.captureLost "Capture source lost: gone") := rfl
  obtain ⟨-, -, ⟨x, hfailed, -⟩ | ⟨result, hfinished, hconcluded⟩⟩ :=
    verdict_of_encounters launcher {} ⟨0⟩ hran hheld hended
  · rw [hwaiting] at hfailed
    cases hfailed
  · obtain rfl := Except.ok.inj ((hfinished (by simp [hreturned])).symm.trans hfinish)
    rw [hfate] at hconcluded
    exact hconcluded

/-- Where the bytes of a session, as bits, do not fit 64 bits, the engine is lost while it takes the
session down: it stays in the last phase of the end, although the loop has returned and the pipeline
is finished well, and reports no error. -/
theorem unreported_after_overflow :
    let launcher := losingLauncher (.ok ⟨1, 2305843009213693952, 0, .exhausted⟩)
    let ran := (new launcher {} ⟨0⟩).boot.value.run twoTurns
    let ended := ran.value.2.step .timeout ⟨100000000⟩
    let reason := StopReason.captureLost "Capture source lost: gone"
    ran.value.1 = .waiting ∧ ran.value.2.capture.bind CaptureLoop.ended = some (.returned reason) ∧
      ended.value.1 = .failed .multiplication ∧ ended.value.2.capture.isNone = true ∧
      ended.value.2.state = .stopping reason .releaseDevice ∧
      ended.events.all (fun event => !event.isError) = true := by
  intro launcher ran ended reason
  refine ⟨rfl, rfl, ?_, ?_, ?_, ?_⟩ <;> decide +kernel

end Engine

end Framecast

import Framecast.Proofs.Engine.Launched
import Framecast.Proofs.Engine.Lives
import Framecast.Proofs.Engine.Quiet
import Framecast.Proofs.Session.Output

/-!
# What the containers see in the life of an engine

A chronicle of an engine tells of each session the calls from its launch to its end and what became
of it: it did not start, it was finished, or its loop broke down. What its container sees follows
from that (`Fate.Sees`): a file without a trailer cannot be read, and every session that starts
writes one unless its loop breaks down, also when the source is lost, the flush or the trailer
fails, or the engine is let go in between.
-/

namespace Framecast

open Journaled

/-- What a container sees of a session, by what became of the session. -/
inductive Fate.Sees : Fate → List Call → Prop
  /-- No container was opened. -/
  | unopened {e : SessionError} : Sees (.unstarted e) []
  /-- It was opened for a session that did not start, and let go. -/
  | futile {e : SessionError} {config : SessionConfig} {before : List Call}
      (futile : Futile before) :
      Sees (.unstarted e) (.openContainer config (.ok ()) :: before ++ [.release .container])
  /-- It got its stream, the header, packets and the trailer, and was let go. -/
  | completed {reason : StopReason} {result : Except SessionError SessionSummary}
      {config : SessionConfig} {spec : StreamSpec} {index : Nat} {packets : List Call}
      {answer : Except Fault Unit} (only : PacketsOnly packets) :
      Sees (.finished reason (.ok result))
        (openingCalls config spec index ++ packets ++ [.writeTrailer answer, .release .container])
  /-- A stamp overflowed while the encoder was drained for the last time, and it was let go. -/
  | overflowed {reason : StopReason} {x : Overflow} {config : SessionConfig} {spec : StreamSpec}
      {index : Nat} {packets : List Call}
      (only : PacketsOnly packets) :
      Sees (.finished reason (.error x))
        (openingCalls config spec index ++ packets ++ [.release .container])
  /-- The loop broke down, and it was let go as it was. -/
  | broken {config : SessionConfig} {spec : StreamSpec} {index : Nat} {packets : List Call}
      (only : PacketsOnly packets) :
      Sees .broken (openingCalls config spec index ++ packets ++ [.release .container])

/-! ## The container of a session -/

variable {ε κ σ : Type} [Encoder ε] [Container κ]

section Launch

variable [FrameSource σ] {l : SessionLauncher ε κ σ} {config : SessionConfig} {now : Instant}
  {calls : List Call}

/-- The container of a session that is launched has seen the stream and the header. -/
theorem SessionLauncher.LaunchedBy.outputs_launched {launched : Launched σ (Session ε κ)}
    (h : l.LaunchedBy config now calls (.ok launched)) :
    ∃ spec index, outputs calls = openingCalls config spec index := by
  cases h with
  | @launched source container more s opened given started =>
    obtain ⟨spec, index, hs⟩ := started.outputs_session
    refine ⟨spec, index, ?_⟩
    show .openContainer config (.ok ()) :: outputs more = _
    rw [hs]
    rfl

/-- The container of a session that is not launched, if it was opened, was let go without a header
and without a trailer. -/
theorem SessionLauncher.LaunchedBy.sees {x : SessionError}
    (h : l.LaunchedBy config now calls (.error x)) : (Fate.unstarted x).Sees (outputs calls) := by
  cases h with
  | sourceless refused => exact .unopened
  | containerless opened refused => exact .unopened
  | @unstarted source container c more e opened given started =>
    obtain ⟨before, hfutile, hs⟩ := started.outputs_failed
    have hquit : outputs (quitCalls source) = [] := rfl
    have houtputs : outputs (.openSource config (.ok ()) :: .openContainer config (.ok ()) ::
        more ++ quitCalls source) =
        .openContainer config (.ok ()) :: before ++ [.release .container] := by
      show .openContainer config (.ok ()) :: outputs (more ++ quitCalls source) = _
      rw [outputs_append, hs, hquit, List.append_nil]
      rfl
    rw [houtputs]
    exact .futile hfutile

end Launch

namespace CaptureLoop

variable [QuietSource σ] {l : CaptureLoop σ (Session ε κ)} {m : Metrics} {calls : List Call}

omit [QuietSource σ] in
/-- Submitting a frame writes nothing but packets. -/
theorem writes_submitCalls (f : CapturedFrame) : Writes (l.submitCalls f) :=
  .cons rfl (l.pipeline.submit_submitted f).writes

omit [Encoder ε] [Container κ] in
/-- Asking a quiet source for a frame writes nothing. -/
theorem writes_pollCalls : Writes l.pollCalls := by
  rw [pollCalls_quiet]
  exact .of_outputs_eq_nil rfl

/-- A turn that a loop survives writes nothing but packets. -/
theorem Turned.writes {stop : Bool} {r : CaptureLoop σ (Session ε κ) × Metrics}
    (h : l.Turned m stop calls r) : Writes calls := by
  cases h with
  | idle => exact .of_outputs_eq_nil rfl
  | stopped => exact .of_outputs_eq_nil rfl
  | unfed => exact writes_pollCalls
  | lost => exact writes_pollCalls
  | @fed f => exact writes_pollCalls.append (writes_submitCalls f)

/-- A turn in which a loop breaks down writes nothing but packets until then. -/
theorem Breaks.writes {now : Instant} {source : σ} {pipeline : Session ε κ}
    (h : l.Breaks m now calls source pipeline) : Writes calls := by
  cases h with
  | figures => exact .of_outputs_eq_nil rfl
  | source => exact writes_pollCalls
  | @submission f => exact writes_pollCalls.append (writes_submitCalls f)

omit [QuietSource σ] in
/-- A loop that breaks down lets go of the container of its session. -/
theorem outputs_wreckCalls (s : Session ε κ) : outputs (wreckCalls s) = [.release .container] := by
  have hrelease : outputs (Pipeline.release s).calls = [.release .container] := s.outputs_release
  show outputs ((Pipeline.release s).calls ++ [.release .source]) = _
  rw [outputs_append, hrelease]
  rfl

end CaptureLoop

namespace LiveSession

variable [QuietSource σ] {first s : LiveSession σ (Session ε κ)} {past : List Occasion}
  {calls : List Call}

/-- An occasion on which the loop does not break down writes nothing but packets. -/
theorem writes_after {x : Occasion} (survives : (s.after x).value.loop.ended ≠ some .broken) :
    Writes (s.after x).calls := by
  by_cases hturn : ∃ now, x = .step (.turn, now)
  · obtain ⟨now, rfl⟩ := hturn
    rw [value_after_turn] at survives
    rw [calls_after_turn]
    obtain hturned | ⟨_, _, _, -, -, -, -, hbroken⟩ := s.loop.turn_cases s.metrics false now
    · exact hturned.writes
    · exact absurd hbroken survives
  · rw [(after_unturned (not_exists.mp hturn)).1]
    exact .of_outputs_eq_nil rfl

/-- A session that goes on writes nothing but packets. -/
theorem Loops.writes (h : first.Loops past calls s) : Writes calls := by
  induction h with
  | start => exact .of_outputs_eq_nil rfl
  | step _ _ survives ih => exact ih.append (writes_after survives)

/-- So does a session whose loop breaks down, until its container is let go. -/
theorem Wrecked.writes (h : first.Wrecked past calls s) :
    ∃ before, Writes before ∧ outputs calls = outputs before ++ [.release .container] := by
  induction h with
  | @broke past calls before s now source pipeline loops running breaks broken =>
    -- Until it breaks down, the turn does what any other does; then the container is let go.
    refine ⟨calls ++ before, loops.writes.append breaks.writes, ?_⟩
    show outputs (calls ++ (before ++ CaptureLoop.wreckCalls pipeline)) = _
    rw [← List.append_assoc, outputs_append, CaptureLoop.outputs_wreckCalls]
  | unnoticed _ _ ih => exact ih

end LiveSession

/-- The container of a session that is finished, having seen the stream, the header and packets,
sees what is left. -/
theorem Fate.Sees.of_finish {calls : List Call} (writes : Writes calls) (s : Session ε κ)
    (now : Instant) (reason : StopReason) (config : SessionConfig) (spec : StreamSpec)
    (index : Nat) :
    (Fate.finished reason (s.finish now).value.result).Sees
      (openingCalls config spec index ++ (outputs calls ++ outputs (s.finish now).calls)) := by
  -- What came before the end is packets, and so is what the flush adds to it.
  obtain ⟨before, hbefore, hcases⟩ := (s.finish_finishedBy now).outputs_cases
  have hwrites : PacketsOnly (outputs calls ++ outputs before) := by
    rw [← outputs_append]
    exact writes.append hbefore
  rcases hcases with ⟨result, answer, hresult, hend⟩ | ⟨x, hresult, hend⟩
  · rw [hresult, hend, ← List.append_assoc (outputs calls), ← List.append_assoc]
    exact .completed hwrites
  · rw [hresult, hend, ← List.append_assoc (outputs calls), ← List.append_assoc]
    exact .overflowed hwrites

namespace Engine

variable [QuietSource σ]

/-- What the container of a launched session sees while it is served makes what it has seen
whole. -/
theorem Served.sees {first : LiveSession σ (Session ε κ)} {past : List Occasion}
    {career : List Call} {fate : Fate} (h : Served first past career fate) (config : SessionConfig)
    (spec : StreamSpec) (index : Nat) :
    fate.Sees (openingCalls config spec index ++ outputs career) := by
  cases h with
  | @finished past calls s reason st now loops returned ended =>
    have hdown : outputs (s.loop.takeDownCalls now) =
        outputs (s.loop.pipeline.finish now).calls := by
      simp [CaptureLoop.takeDownCalls, outputs, Call.isOutput]
    show (Fate.finished _ _).Sees (_ ++ outputs (calls ++ s.loop.takeDownCalls now))
    rw [outputs_append, hdown]
    exact .of_finish loops.writes s.loop.pipeline now reason config spec index
  | @dropped past calls s reason now loops returned =>
    have hdrop : outputs (s.loop.dropCalls now) = outputs (s.loop.pipeline.finish now).calls := by
      simp [CaptureLoop.dropCalls, outputs, Call.isOutput]
    show (Fate.finished _ _).Sees (_ ++ outputs (calls ++ s.loop.dropCalls now))
    rw [outputs_append, hdrop]
    exact .of_finish loops.writes s.loop.pipeline now reason config spec index
  | broken wrecked =>
    obtain ⟨before, hwrites, houtputs⟩ := wrecked.writes
    rw [houtputs, ← List.append_assoc]
    exact .broken hwrites

/-- In a chronicle every container has seen what became of its session. -/
theorem Chronicle.sees {launcher l : SessionLauncher ε κ σ} {past : List Occasion}
    {chapters : List (List Call × Fate)} (h : Chronicle launcher past chapters l) :
    ∀ x ∈ chapters, x.2.Sees (outputs x.1) := by
  induction h with
  | none => exact fun x hx => absurd hx List.not_mem_nil
  | rested _ _ ih => exact ih
  | @failed past chapters l l' config now x _ _ answer ih =>
    refine List.forall_mem_append.mpr ⟨ih, List.forall_mem_singleton.mpr ?_⟩
    have hl := l.launch_launchedBy config now
    have hanswer : (l.launch config now).value.1 = .error x := congrArg Prod.fst answer
    rw [hanswer] at hl
    exact hl.sees
  | @served past during chapters career fate l l' config now launched _ _ answer served ih =>
    refine List.forall_mem_append.mpr ⟨ih, List.forall_mem_singleton.mpr ?_⟩
    have hl := l.launch_launchedBy config now
    have hanswer : (l.launch config now).value.1 = .ok launched := congrArg Prod.fst answer
    rw [hanswer] at hl
    obtain ⟨spec, index, houtputs⟩ := hl.outputs_launched
    have hlaunch : outputs (launchCalls l config now) = outputs (l.launch config now).calls := rfl
    show fate.Sees (outputs (launchCalls l config now ++ career))
    rw [outputs_append, hlaunch, houtputs]
    exact served.sees config spec index

/-- In the life of an engine that launches sessions, whatever its collaborators answer, the
container of each session sees at most one stream, then at most one header, packets only after a
header that was written, and is let go in the end. It sees a trailer, once and after the last
packet, if its session started and its loop did not break down, unless a stamp overflowed in the
end, and none otherwise. -/
theorem life_outputs (launcher : SessionLauncher ε κ σ) (outbox : Outbox) (start : Instant)
    (steps : List (Step × Instant)) (last : Instant) :
    let booted : Engine (SessionLauncher ε κ σ) σ (Session ε κ) :=
      (new launcher outbox start).boot.value
    let lived := life launcher outbox start steps last
    ∃ chapters,
      Chronicle launcher (booted.occasions steps last) chapters lived.value.2.launcher ∧
      lived.calls = chapters.flatMap Prod.fst ∧ ∀ x ∈ chapters, x.2.Sees (outputs x.1) := by
  intro booted lived
  obtain ⟨chapters, told, hcalls⟩ := (run_serves launcher outbox start steps).dropped last
  have hsees := told.sees
  rw [← value_life] at told
  rw [← calls_life] at hcalls
  exact ⟨chapters, told, hcalls, hsees⟩

end Engine

end Framecast

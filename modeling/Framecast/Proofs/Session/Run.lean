import Framecast.Proofs.Session.Started

/-!
# Runs of a session

A session begins `Fresh`, is given frames one after the other (`submitAll`), and may then be
finished. `Ran` is such a run as a relation that grows by one submission at its end, whatever the
session answered, so that an invariant of sessions needs to be shown for one submission only
(`Ran.keeps`).
-/

namespace Framecast

open Journaled

variable {ε κ : Type} [Encoder ε] [Container κ]

namespace Session

/-- Submit frames one after the other. -/
def submitAll (s : Session ε κ) : List CapturedFrame → Journaled (List Answer × Session ε κ)
  | [] => return ([], s)
  | f :: fs => do
    let (answer, s) ← s.submit f
    let (answers, s) ← s.submitAll fs
    return (answer :: answers, s)

/-- A run of a session: by these frames, these calls and these answers, to another session. -/
inductive Ran (s : Session ε κ) :
    List CapturedFrame → List Call → List Answer → Session ε κ → Prop
  /-- Nothing has been submitted. -/
  | none : Ran s [] [] [] s
  /-- One more frame is submitted. -/
  | more {fs : List CapturedFrame} {f : CapturedFrame} {calls calls' : List Call}
      {answers : List Answer} {answer : Answer} {s' s'' : Session ε κ}
      (ran : Ran s fs calls answers s') (submitted : s'.Submitted f calls' answer s'') :
      Ran s (fs ++ [f]) (calls ++ calls') (answers ++ [answer]) s''

/-- Submitting frames continues a run. -/
theorem Ran.submitAll {s s' : Session ε κ} {before : List CapturedFrame} {calls : List Call}
    {answers : List Answer} (ran : s.Ran before calls answers s') (fs : List CapturedFrame) :
    s.Ran (before ++ fs) (calls ++ (s'.submitAll fs).calls)
      (answers ++ (s'.submitAll fs).value.1) (s'.submitAll fs).value.2 := by
  induction fs generalizing s' before calls answers with
  | nil => simpa [Session.submitAll] using ran
  | cons f fs ih =>
    have hstep := ran.more (s'.submit_submitted f)
    simpa [Session.submitAll] using ih hstep

/-- Submitting frames is a run. -/
theorem submitAll_ran (s : Session ε κ) (fs : List CapturedFrame) :
    s.Ran fs (s.submitAll fs).calls (s.submitAll fs).value.1 (s.submitAll fs).value.2 := by
  simpa using Ran.none.submitAll fs

/-- What every submission keeps is kept by a run. -/
theorem Ran.keeps {s : Session ε κ} {I : List Call → List Answer → Session ε κ → Prop}
    (base : I [] [] s)
    (step : ∀ {f calls calls' answers answer s' s''}, I calls answers s' →
      s'.Submitted f calls' answer s'' → I (calls ++ calls') (answers ++ [answer]) s'')
    {fs : List CapturedFrame} {calls : List Call} {answers : List Answer} {s' : Session ε κ}
    (ran : s.Ran fs calls answers s') : I calls answers s' := by
  induction ran with
  | none => exact base
  | more _ submitted ih => exact step ih submitted

/-- Nothing has been submitted, and nothing drained. -/
structure Fresh (s : Session ε κ) : Prop where
  /-- The drain is new. -/
  drain : s.drain = {}
  /-- There is no last frame. -/
  lastPts : s.lastPts = none
  /-- The end of input has not been signalled. -/
  unflushed : s.bound.flushed = false
  /-- The encoder has taken no frame. -/
  framesSent : s.bound.framesSent = 0

end Session

namespace SessionBuilder

variable {b : SessionBuilder ε κ} {width height : UInt32} {format : SurfaceFormat} {now : Instant}
  {s : Session ε κ}

/-- A session that has just started has submitted nothing. -/
theorem fresh_of_start (h : (b.start width height format now).value = .session s) : s.Fresh := by
  have hs := b.start_startedBy width height format now
  rw [h] at hs
  generalize (b.start width height format now).calls = calls at hs
  cases hs with
  | @started _ _ bound _ _ _ binds _ _ =>
    obtain ⟨device, config, -, hbound⟩ := binds.bound
    have hb := b.backend.bind_boundBy device config format.pixelFormat
    rw [hbound] at hb
    generalize (b.backend.bind device config format.pixelFormat).calls = calls at hb
    cases hb with
    | bound _ _ _ => exact ⟨rfl, rfl, rfl, rfl⟩

/-- The container of a session that has just started has taken its stream, under the index that came
next, and the header. -/
theorem container_of_start (h : (b.start width height format now).value = .session s) :
    s.stream.index = Container.streamCount b.container ∧
      ∃ spec c, Container.addStream b.container spec = (some s.stream.index, c) ∧
        Container.writeHeader c = (.ok (), s.container) := by
  have hs := b.start_startedBy width height format now
  rw [h] at hs
  generalize (b.start width height format now).calls = calls at hs
  cases hs with
  | started _ published header =>
    cases published with
    | published _ added => exact ⟨rfl, _, _, added, header⟩

end SessionBuilder

end Framecast

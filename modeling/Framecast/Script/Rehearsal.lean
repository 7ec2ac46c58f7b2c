import Framecast.Engine.Run
import Framecast.Script.Source

/-!
# Rehearsals

An engine is put through a list of cues: commands, frames for the source of its live session, time
that passes. After each cue the capture loop takes all its source has to give, and the engine waits
for a command. So a command never has to wait out the tenth of a second after which the engine looks
around, and that long a passage of time makes it look around once.

The application learns the state by asking, and takes the first event that names one state twice for
the answer. An announced phase that repeats the one before looks the same; the answer proper is then
read after the next cue.
-/

namespace Framecast

open Journaled

/-- How long the engine waits for a command before it looks around. -/
def commandTimeout : Duration := .ofNanos 100000000

/-- What happens to an engine in a rehearsal. -/
inductive Cue
  | command (c : Command)
  /-- There will be no more commands. -/
  | disconnect
  /-- The source of the live session has more to give. -/
  | feed (cues : List FrameCue)
  /-- Time passes. -/
  | advance (d : Duration)
  | nothing
deriving Repr

/-- The events before the first that names one state twice, that state, and the events after it. -/
def answerIn : List Event → List Event × Option SessionState × List Event
  | [] => ([], none, [])
  | e :: es =>
    let later := answerIn es
    match e with
    | .stateChanged previous current =>
      if previous == current then ([], some current, es) else (e :: later.1, later.2)
    | _ => (e :: later.1, later.2)

/-- An engine on its stage. -/
structure Stage (ℓ π : Type) where
  engine : Engine ℓ ScriptedSource π
  now : Instant
  /-- How the engine goes on. -/
  verdict : Verdict := .waiting
  /-- The events that the application read after the last cue, answers apart. -/
  told : List Event := []
  /-- The state that the application was told last. -/
  state : SessionState := .idle

namespace Stage

variable {ℓ π : Type} [Pipeline π] [Launcher ℓ ScriptedSource π]

/-- The engine takes a step, if it still runs. -/
def step (s : Stage ℓ π) (x : Step) : Journaled (Stage ℓ π) := do
  if s.verdict = .waiting then
    let (verdict, engine) ← s.engine.step x s.now
    return { s with engine, verdict }
  else return s

/-- The capture loop takes `n` turns. -/
def turns (s : Stage ℓ π) : Nat → Journaled (Stage ℓ π)
  | 0 => return s
  | n + 1 => do
    let s ← s.step .turn
    s.turns n

/-- The capture loop takes all its source has to give. -/
def settle (s : Stage ℓ π) : Journaled (Stage ℓ π) :=
  match s.engine.capture with
  | none => return s
  | some l => s.turns l.source.cues.length

/-- The source of a running capture loop has more to give. -/
def feed (s : Stage ℓ π) (cues : List FrameCue) : Stage ℓ π :=
  match s.engine.capture with
  | none => s
  | some l =>
    if l.ended.isSome then s
    else
      let l := { l with source := l.source.feed cues }
      { s with engine := { s.engine with capture := some l } }

/-- What a cue does at once. -/
def react (s : Stage ℓ π) : Cue → Journaled (Stage ℓ π)
  | .command c => s.step (.command c)
  | .disconnect => s.step .disconnected
  | .feed cues => return s.feed cues
  | .advance d => do
    let s := { s with now := ⟨s.now.nanos + d.nanos⟩ }
    let s ← if d.nanos < commandTimeout.nanos then pure s else s.step .timeout
    s.step .turn
  | .nothing => return s

/-- The application reads `told`, and leaves the events after it. -/
def read (s : Stage ℓ π) (told rest : List Event) (state : SessionState) : Stage ℓ π :=
  { s with
    engine := { s.engine with outbox := { s.engine.outbox with waiting := rest } }
    told := s.told ++ told
    state }

/-- The application reads every event that waits. -/
def readAll (s : Stage ℓ π) : Stage ℓ π := s.read s.engine.outbox.waiting [] s.engine.state

/-- The application asks for the state, and reads up to the answer. -/
def ask (s : Stage ℓ π) : Journaled (Stage ℓ π) := do
  let s ← s.step (.command .getState)
  let (told, state, rest) := answerIn s.engine.outbox.waiting
  return s.read told rest (state.getD s.state)

/-- Play a cue. The application asks for the state, and asks again once a live session has taken
what there was. An engine that arithmetic has failed is let go. -/
def play (s : Stage ℓ π) (cue : Cue) : Journaled (Stage ℓ π) := do
  let s ← { s with told := [] }.react cue
  match s.verdict with
  | .waiting => do
    let s ← s.ask
    if s.state.isLive then
      let s ← s.settle
      s.ask
    else s.settle
  | .ended => return s.readAll
  | .failed _ => do
    let engine ← s.engine.release s.now
    return { s with engine }.readAll

/-- An engine begins to run. -/
def raise (launcher : ℓ) (now : Instant) : Journaled (Stage ℓ π) := do
  let engine ← (Engine.new launcher {} now).boot
  let s : Stage ℓ π := { engine, now }
  return s.readAll

/-- The engine takes no more cues. -/
def isOver (s : Stage ℓ π) : Bool := s.verdict ≠ .waiting

end Stage

/-- Run an engine on commands that wait for it from the start, after which there will be no more,
and let go of it. Its source has nothing to give. -/
def Engine.runQueue {ℓ σ π : Type} [FrameSource σ] [Pipeline π] [Launcher ℓ σ π]
    (e : Engine ℓ σ π) (now : Instant) : List Command → Journaled (Engine ℓ σ π)
  | [] => do
    let (_, e) ← e.step .disconnected now
    e.release now
  | c :: cs => do
    let (verdict, e) ← e.step (.command c) now
    match verdict with
    | .waiting => e.runQueue now cs
    | _ => e.release now

end Framecast

import Framecast.Container.Basic
import Framecast.Log.Line
import Framecast.Message.Basic

/-!
# The journal

A session works through others: a driver, an encoder, a container, a source of frames. What happens
between them is written down in order: each call with its answer, each release, each line for the
log, each phase announced, each event offered to the application. `Journaled α` is a value together
with what happened on the way to it.

The entries carry the spans of work they fall into, outermost first. What happens aside, on another
thread than the work it is written down with, falls into none of that work's spans.
-/

namespace Framecast

/-- Something a session holds until it lets go of it. -/
inductive Resource
  | encoder
  | framePool
  | container
  | source
  | pipeline
deriving DecidableEq, Repr

/-- A call made of a collaborator, with its answer. -/
inductive Call
  | driverInit (answer : Except Fault Unit)
  | deviceCount (answer : Except Fault UInt32)
  | resolveDevice (ordinal : UInt32) (answer : Except Fault DeviceHandle)
  | createContext (device : DeviceHandle) (policy : SchedulePolicy)
      (answer : Except Fault RawContext)
  | destroyContext (raw : RawContext) (answer : Except Fault Unit)
  | hasEncoder (name : String) (answer : Bool)
  | openPool (device : DeviceHandle) (shape : PoolShape) (answer : Except Fault PixelFormat)
  | openEncoder (config : EncoderConfig) (answer : Except Fault Unit)
  | sendFrame (frame : SurfaceFrame) (answer : Except Fault Unit)
  | sendEnd (answer : Except Fault Unit)
  | receive (answer : Received)
  | openContainer (config : SessionConfig) (answer : Except MuxError Unit)
  | addStream (spec : StreamSpec) (answer : Option Nat)
  | writeHeader (answer : Except Fault Unit)
  | writePacket (packet : Packet) (answer : Except Fault Unit)
  | writeTrailer (answer : Except Fault Unit)
  | openSource (config : SessionConfig) (answer : Except CaptureError Unit)
  | nextFrame (timeout : Duration)
  | stopSource (answer : Except CaptureError Unit)
  | launch (config : SessionConfig)
  | submit (frame : CapturedFrame)
  | finish
  | release (resource : Resource)

/-- Something that happened. -/
inductive Happening
  /-- A collaborator was called, or let go. -/
  | call (c : Call)
  /-- A line for the log. -/
  | line (l : LogLine)
  /-- A starting session announced a phase. -/
  | startup (phase : StartupPhase)
  /-- An ending session announced a phase. -/
  | shutdown (phase : ShutdownPhase)
  /-- An event was offered to the application, which had room for it or not. -/
  | event (e : Event) (delivered : Bool)
  /-- A collaborator noted something of its own. -/
  | note (text : String)

/-- A happening within its spans. -/
structure Entry where
  /-- The spans it falls into, outermost first. -/
  spans : List Span
  /-- It happened aside, so that spans from here on leave it alone. -/
  aside : Bool
  /-- What happened. -/
  what : Happening

/-- A value, and what happened on the way to it. -/
structure Journaled (α : Type) where
  value : α
  entries : List Entry

namespace Journaled

/-- Nothing happened. -/
protected def pure {α : Type} (a : α) : Journaled α := ⟨a, []⟩

/-- One after the other. -/
protected def bind {α β : Type} (x : Journaled α) (f : α → Journaled β) : Journaled β :=
  let y := f x.value
  ⟨y.value, x.entries ++ y.entries⟩

/-- Work is composed one thing after the other. -/
instance : Monad Journaled where
  pure := Journaled.pure
  bind := Journaled.bind

/-- Where nothing happens the outcome is given. -/
@[simp] theorem value_pure {α : Type} (a : α) : (pure a : Journaled α).value = a := rfl

/-- Where nothing happens nothing is written down. -/
@[simp] theorem entries_pure {α : Type} (a : α) : (pure a : Journaled α).entries = [] := rfl

/-- The outcome is that of the last thing. -/
@[simp] theorem value_bind {α β : Type} (x : Journaled α) (f : α → Journaled β) :
    (x >>= f).value = (f x.value).value := rfl

/-- What happens is written down one thing after the other. -/
@[simp] theorem entries_bind {α β : Type} (x : Journaled α) (f : α → Journaled β) :
    (x >>= f).entries = x.entries ++ (f x.value).entries := rfl

/-- A function of the outcome is applied to it. -/
@[simp] theorem value_map {α β : Type} (f : α → β) (x : Journaled α) :
    (f <$> x).value = f x.value := rfl

/-- A function of the outcome leaves what happened alone. -/
@[simp] theorem entries_map {α β : Type} (f : α → β) (x : Journaled α) :
    (f <$> x).entries = x.entries := List.append_nil _

/-- How work is grouped does not matter. -/
instance : LawfulMonad Journaled :=
  LawfulMonad.mk' Journaled
    (fun x => by cases x; simp [Functor.map, Journaled.bind, Journaled.pure])
    (fun _ _ => rfl)
    (fun _ _ _ => by simp [bind, Journaled.bind])

/-- One thing happened, within no span yet. -/
def happen (h : Happening) : Journaled Unit := ⟨(), [⟨[], false, h⟩]⟩

/-- A call was made. -/
def call (c : Call) : Journaled Unit := happen (.call c)

/-- A resource was let go. -/
def release (r : Resource) : Journaled Unit := call (.release r)

/-- A line was said. -/
def say (level : Level) (speaker : Speaker) (message : String) (fields : List Field) :
    Journaled Unit :=
  happen (.line ⟨level, speaker, message, none, fields⟩)

/-- All of it happened within a span, but for what happened aside. -/
def within {α : Type} (s : Span) (x : Journaled α) : Journaled α :=
  ⟨x.value, x.entries.map fun e => if e.aside then e else { e with spans := s :: e.spans }⟩

/-- All of it happened aside. -/
def elsewhere {α : Type} (x : Journaled α) : Journaled α :=
  ⟨x.value, x.entries.map fun e => { e with aside := true }⟩

/-- Write an entry down again. -/
def repeatEntry (e : Entry) : Journaled Unit := ⟨(), [e]⟩

/-- All of it happened where `e` did. -/
def beside {α : Type} (e : Entry) (x : Journaled α) : Journaled α :=
  ⟨x.value, x.entries.map fun f => { f with spans := e.spans ++ f.spans, aside := e.aside }⟩

/-- A span leaves the outcome alone. -/
@[simp] theorem value_within {α : Type} (s : Span) (x : Journaled α) :
    (x.within s).value = x.value := rfl

/-- So does work aside. -/
@[simp] theorem value_elsewhere {α : Type} (x : Journaled α) : x.elsewhere.value = x.value := rfl

/-- So does work beside an entry. -/
@[simp] theorem value_beside {α : Type} (e : Entry) (x : Journaled α) :
    (x.beside e).value = x.value := rfl

/-- The calls that were made, in order. -/
def calls {α : Type} (x : Journaled α) : List Call :=
  x.entries.filterMap fun e => match e.what with
    | .call c => some c
    | _ => none

end Journaled

end Framecast

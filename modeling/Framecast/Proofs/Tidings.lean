import Framecast.Proofs.Calls

/-!
# The tidings in a journal

A session announces the phases it goes through, and the engine offers events to the application.
These are the tidings of a journal, in order. Like the calls they follow its structure: one thing
after the other has the tidings of both, and calls, spans and log lines have none.
-/

namespace Framecast

/-- Somebody listens for it: a phase is announced, or an event offered. -/
def Happening.isTiding : Happening → Bool
  | .startup _ => true
  | .shutdown _ => true
  | .event _ _ => true
  | _ => false

/-- The event that is offered, whether there is room for it or not. -/
def Happening.event? : Happening → Option Event
  | .event e _ => some e
  | _ => none

/-- What nobody listens for is no event. -/
theorem Happening.event?_eq_none {h : Happening} (hh : h.isTiding = false) : h.event? = none := by
  cases h with
  | event e delivered => cases hh
  | _ => rfl

/-- The change of state that an event tells of. -/
def Event.change? : Event → Option (SessionState × SessionState)
  | .stateChanged previous current => some (previous, current)
  | _ => none

/-- The figures that an event tells. -/
def Event.figures? : Event → Option SessionStats
  | .stats figures => some figures
  | _ => none

namespace Journaled

variable {α β : Type}

/-- The announcements and the events, in order. -/
def tidings (x : Journaled α) : List Happening :=
  (x.entries.map Entry.what).filter Happening.isTiding

/-- The events that were offered to the application, in order. -/
def events (x : Journaled α) : List Event := x.tidings.filterMap Happening.event?

/-- Nothing happened, so there are no tidings. -/
@[simp] theorem tidings_pure (a : α) : (pure a : Journaled α).tidings = [] := rfl

/-- One thing after the other has the tidings of both, in order. -/
@[simp] theorem tidings_bind (x : Journaled α) (f : α → Journaled β) :
    (x >>= f).tidings = x.tidings ++ (f x.value).tidings := by
  simp [tidings]

/-- A function of the outcome leaves the tidings alone. -/
@[simp] theorem tidings_map (f : α → β) (x : Journaled α) : (f <$> x).tidings = x.tidings := by
  simp [tidings]

/-- A span leaves the tidings within it alone. -/
@[simp] theorem tidings_within (s : Span) (x : Journaled α) :
    (x.within s).tidings = x.tidings := by
  unfold tidings within
  rw [List.map_map]
  congr 2
  funext e
  by_cases h : e.aside <;> simp [h]

/-- What happens aside has its tidings all the same. -/
@[simp] theorem tidings_elsewhere (x : Journaled α) : x.elsewhere.tidings = x.tidings := by
  simp [tidings, elsewhere, Function.comp_def]

/-- What happens beside an entry has its tidings all the same. -/
@[simp] theorem tidings_beside (e : Entry) (x : Journaled α) :
    (x.beside e).tidings = x.tidings := by
  simp [tidings, beside, Function.comp_def]

/-- A call is no tiding. -/
@[simp] theorem tidings_call (c : Call) : (call c).tidings = [] := rfl

/-- Letting go of a resource is no tiding. -/
@[simp] theorem tidings_release (r : Resource) : (release r).tidings = [] := rfl

/-- A line for the log is no tiding. -/
@[simp] theorem tidings_say (level : Level) (speaker : Speaker) (message : String)
    (fields : List Field) : (say level speaker message fields).tidings = [] := rfl

/-- A line that is written down as it is is no tiding. -/
@[simp] theorem tidings_happen_line (line : LogLine) : (happen (.line line)).tidings = [] := rfl

/-- A phase of startup that is announced is a tiding. -/
@[simp] theorem tidings_happen_startup (phase : StartupPhase) :
    (happen (.startup phase)).tidings = [.startup phase] := rfl

/-- A phase of shutdown that is announced is a tiding. -/
@[simp] theorem tidings_happen_shutdown (phase : ShutdownPhase) :
    (happen (.shutdown phase)).tidings = [.shutdown phase] := rfl

/-- An event that is offered is a tiding. -/
@[simp] theorem tidings_happen_event (event : Event) (delivered : Bool) :
    (happen (.event event delivered)).tidings = [.event event delivered] := rfl

/-- Without tidings there are no events. -/
theorem events_of_tidings {x : Journaled α} (h : x.tidings = []) : x.events = [] := by
  simp [events, h]

/-- Nothing happened, so no event was offered. -/
@[simp] theorem events_pure (a : α) : (pure a : Journaled α).events = [] := rfl

/-- One thing after the other offers the events of both, in order. -/
@[simp] theorem events_bind (x : Journaled α) (f : α → Journaled β) :
    (x >>= f).events = x.events ++ (f x.value).events := by
  simp [events]

/-- A function of the outcome leaves the events alone. -/
@[simp] theorem events_map (f : α → β) (x : Journaled α) : (f <$> x).events = x.events := by
  simp [events]

/-- A span leaves the events within it alone. -/
@[simp] theorem events_within (s : Span) (x : Journaled α) : (x.within s).events = x.events := by
  simp [events]

/-- What happens aside offers its events all the same. -/
@[simp] theorem events_elsewhere (x : Journaled α) : x.elsewhere.events = x.events := by
  simp [events]

/-- What happens beside an entry offers its events all the same. -/
@[simp] theorem events_beside (e : Entry) (x : Journaled α) : (x.beside e).events = x.events := by
  simp [events]

/-- A call offers no event. -/
@[simp] theorem events_call (c : Call) : (call c).events = [] := rfl

/-- Letting go of a resource offers no event. -/
@[simp] theorem events_release (r : Resource) : (release r).events = [] := rfl

/-- A line for the log offers no event. -/
@[simp] theorem events_say (level : Level) (speaker : Speaker) (message : String)
    (fields : List Field) : (say level speaker message fields).events = [] := rfl

/-- An entry that is written down again offers its event again. -/
theorem events_repeatEntry (e : Entry) : (repeatEntry e).events = e.what.event?.toList := by
  obtain ⟨spans, aside, what⟩ := e
  cases what <;> rfl

/-- A line that is written down as it is offers no event. -/
@[simp] theorem events_happen_line (line : LogLine) : (happen (.line line)).events = [] := rfl

/-- An event that is offered is one event. -/
@[simp] theorem events_happen_event (event : Event) (delivered : Bool) :
    (happen (.event event delivered)).events = [event] := rfl

end Journaled

end Framecast

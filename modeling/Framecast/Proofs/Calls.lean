import Framecast.Journal

/-!
# The calls in a journal

What a journal says of the calls that were made follows its structure: one thing after the other
makes the calls of both, and spans, log lines and announcements leave them alone. The lemmas here
read them off any composed work, so that no proof has to look at entries.

What passes through a session is then a view of its calls: the packets received from the encoder,
those handed to the container, and which of them it took and refused.
-/

namespace Framecast

namespace Call

/-- The packet received from the encoder, if it is one. -/
def received? : Call → Option Packet
  | .receive (.packet p) => some p
  | _ => none

/-- The packet handed to the container, whatever the container answers. -/
def handed? : Call → Option Packet
  | .writePacket p _ => some p
  | _ => none

/-- The packet that the container takes. -/
def taken? : Call → Option Packet
  | .writePacket p (.ok ()) => some p
  | _ => none

/-- The packet that the container refuses. -/
def refused? : Call → Option Packet
  | .writePacket p (.error _) => some p
  | _ => none

/-- The frame that the encoder takes. -/
def sent? : Call → Option SurfaceFrame
  | .sendFrame f (.ok ()) => some f
  | _ => none

/-- It moves packets along: the encoder is asked for one, or the container is handed one. -/
def transfers : Call → Bool
  | .receive _ => true
  | .writePacket _ _ => true
  | _ => false

end Call

/-- A view that does not see packets being moved along sees nothing in calls that do no more. -/
theorem unseen_of_transfers {α : Type} {view : Call → Option α} {calls : List Call}
    (blind : ∀ c : Call, c.transfers = true → view c = none)
    (h : ∀ c ∈ calls, c.transfers = true) : calls.filterMap view = [] :=
  List.filterMap_eq_nil_iff.mpr fun c hc => blind c (h c hc)

/-- No frame is sent by calls that only move packets along. -/
theorem unsent_of_transfers {calls : List Call} (h : ∀ c ∈ calls, c.transfers = true) :
    calls.filterMap Call.sent? = [] := by
  refine unseen_of_transfers (fun c hc => ?_) h
  cases c <;> first | rfl | cases hc

/-- What holds of every entry of a list, given those before it, holds in two lists together if it
holds in the first and, after that, in the second. -/
theorem forall_split_append {α : Type} {P : List α → α → Prop} {xs ys : List α}
    (first : ∀ earlier x later, xs = earlier ++ x :: later → P earlier x)
    (second : ∀ earlier x later, ys = earlier ++ x :: later → P (xs ++ earlier) x) :
    ∀ earlier x later, xs ++ ys = earlier ++ x :: later → P earlier x := by
  intro earlier x later h
  rcases List.append_eq_append_iff.mp h with ⟨mid, rfl, hys⟩ | ⟨mid, hxs, hmid⟩
  · exact second mid x later hys
  · cases mid with
    | nil =>
      have hnext := second [] x later hmid.symm
      rw [hxs, List.append_nil, List.append_nil] at hnext
      exact hnext
    | cons y mid =>
      obtain ⟨rfl, -⟩ := List.cons.inj hmid
      exact first earlier x mid hxs

namespace Journaled

variable {α β : Type}

/-- Nothing happened, so nothing was called. -/
@[simp] theorem calls_pure (a : α) : (pure a : Journaled α).calls = [] := rfl

/-- One thing after the other makes the calls of both, in order. -/
@[simp] theorem calls_bind (x : Journaled α) (f : α → Journaled β) :
    (x >>= f).calls = x.calls ++ (f x.value).calls := by
  simp [calls]

/-- A span leaves the calls within it alone. -/
@[simp] theorem calls_within (s : Span) (x : Journaled α) : (x.within s).calls = x.calls := by
  unfold calls within
  rw [List.filterMap_map]
  congr 1
  funext e
  by_cases h : e.aside <;> simp [h]

/-- A function of the outcome leaves the calls alone. -/
@[simp] theorem calls_map (f : α → β) (x : Journaled α) : (f <$> x).calls = x.calls := by
  simp [calls]

/-- A call is one call. -/
@[simp] theorem calls_call (c : Call) : (call c).calls = [c] := rfl

/-- Letting go of a resource is one call. -/
@[simp] theorem calls_release (r : Resource) : (release r).calls = [.release r] := rfl

/-- A line for the log is no call. -/
@[simp] theorem calls_say (level : Level) (speaker : Speaker) (message : String)
    (fields : List Field) : (say level speaker message fields).calls = [] := rfl

/-- Announcing a phase of startup is no call. -/
@[simp] theorem calls_happen_startup (phase : StartupPhase) :
    (happen (.startup phase)).calls = [] := rfl

/-- Announcing a phase of shutdown is no call. -/
@[simp] theorem calls_happen_shutdown (phase : ShutdownPhase) :
    (happen (.shutdown phase)).calls = [] := rfl

/-- Offering an event is no call. -/
@[simp] theorem calls_happen_event (event : Event) (delivered : Bool) :
    (happen (.event event delivered)).calls = [] := rfl

/-- A line that is written down as it is makes no call. -/
@[simp] theorem calls_happen_line (line : LogLine) : (happen (.line line)).calls = [] := rfl

/-- What happens aside makes its calls all the same. -/
@[simp] theorem calls_elsewhere (x : Journaled α) : x.elsewhere.calls = x.calls := by
  unfold calls elsewhere
  rw [List.filterMap_map]
  rfl

/-- What happens beside an entry makes its calls all the same. -/
@[simp] theorem calls_beside (e : Entry) (x : Journaled α) : (x.beside e).calls = x.calls := by
  unfold calls beside
  rw [List.filterMap_map]
  rfl

end Journaled

end Framecast

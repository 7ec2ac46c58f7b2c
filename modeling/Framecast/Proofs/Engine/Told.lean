import Framecast.Engine.Basic
import Framecast.Proofs.Tidings

/-!
# What the engine tells

Whatever the engine offers to the application, it makes no call for it, and nothing of the engine
changes but what waits (`value_offer`, `value_enter`, `value_fail`). Following announcements tells
of each state that they stand for (`along`), and leads to the last of them (`reached`).
-/

namespace Framecast.Engine

open Journaled

variable {ℓ σ π : Type} {e : Engine ℓ σ π}

/-! ## Telling the application -/

/-- The events that tell of a state that is entered: the change, and the error if it is one. -/
def entering (before after : SessionState) : List Event :=
  .stateChanged before after :: match after with
    | .error message recoverable => [.error recoverable message]
    | _ => []

/-- Offering an event changes nothing but what waits. -/
theorem value_offer (e : Engine ℓ σ π) (event : Event) :
    ∃ o, (e.offer event).value = { e with outbox := o } := by
  unfold offer
  split
  · exact ⟨_, rfl⟩
  · exact ⟨e.outbox, rfl⟩

/-- Offering an event is no call. -/
@[simp] theorem calls_offer (e : Engine ℓ σ π) (event : Event) : (e.offer event).calls = [] := by
  unfold offer
  split <;> simp

/-- Offering an event offers it, whether there is room for it or not. -/
@[simp] theorem events_offer (e : Engine ℓ σ π) (event : Event) :
    (e.offer event).events = [event] := by
  unfold offer
  split <;> simp

/-- Offering events changes nothing but what waits. -/
theorem value_offerAll (e : Engine ℓ σ π) (events : List Event) :
    ∃ o, (e.offerAll events).value = { e with outbox := o } := by
  induction events generalizing e with
  | nil => exact ⟨e.outbox, rfl⟩
  | cons event events ih =>
    obtain ⟨o, ho⟩ := e.value_offer event
    obtain ⟨o', ho'⟩ := ih { e with outbox := o }
    exact ⟨o', by simp [offerAll, ho, ho']⟩

/-- Offering events is no call. -/
@[simp] theorem calls_offerAll (e : Engine ℓ σ π) (events : List Event) :
    (e.offerAll events).calls = [] := by
  induction events generalizing e with
  | nil => rfl
  | cons event events ih => simp [offerAll, ih]

/-- Offering events offers them in order. -/
@[simp] theorem events_offerAll (e : Engine ℓ σ π) (events : List Event) :
    (e.offerAll events).events = events := by
  induction events generalizing e with
  | nil => rfl
  | cons event events ih => simp [offerAll, ih]

/-- Entering a state changes nothing else but what waits. -/
theorem value_enter (e : Engine ℓ σ π) (state : SessionState) :
    ∃ o, (e.enter state).value = { e with outbox := o, state } := by
  obtain ⟨o, ho⟩ := { e with state }.value_offer (.stateChanged e.state state)
  exact ⟨o, by simp [enter, ho]⟩

/-- Entering a state is no call. -/
@[simp] theorem calls_enter (e : Engine ℓ σ π) (state : SessionState) :
    (e.enter state).calls = [] := by
  simp [enter]

/-- Entering a state is told. -/
@[simp] theorem events_enter (e : Engine ℓ σ π) (state : SessionState) :
    (e.enter state).events = [.stateChanged e.state state] := by
  simp [enter]

/-- Failing enters the error state, and changes nothing else but what waits. -/
theorem value_fail (e : Engine ℓ σ π) (message : String) (recoverable : Bool) :
    ∃ o, (e.fail message recoverable).value =
      { e with outbox := o, state := .error message recoverable } := by
  obtain ⟨o, ho⟩ := e.value_enter (.error message recoverable)
  obtain ⟨o', ho'⟩ := { e with outbox := o, state := .error message recoverable }.value_offer
    (.error recoverable message)
  exact ⟨o', by simp [fail, ho, ho']⟩

/-- Failing is no call. -/
@[simp] theorem calls_fail (e : Engine ℓ σ π) (message : String) (recoverable : Bool) :
    (e.fail message recoverable).calls = [] := by
  simp [fail]

/-- Failing is told, and the error reported. -/
@[simp] theorem events_fail (e : Engine ℓ σ π) (message : String) (recoverable : Bool) :
    (e.fail message recoverable).events = entering e.state (.error message recoverable) := by
  simp [fail, entering]

/-! ## Following announcements -/

/-- The events that are offered along tidings, each announcement being told as the state that it
stands for. -/
def along (state? : Happening → Option SessionState) : SessionState → List Happening → List Event
  | _, [] => []
  | state, h :: hs => h.event?.toList ++ match state? h with
    | none => along state? state hs
    | some next => .stateChanged state next :: along state? next hs

/-- The state that tidings lead to. -/
def reached (state? : Happening → Option SessionState) (state : SessionState)
    (tidings : List Happening) : SessionState :=
  tidings.foldl (fun state h => (state? h).getD state) state

/-- Only tidings stand for states. -/
def Heeds (state? : Happening → Option SessionState) : Prop :=
  ∀ h, h.isTiding = false → state? h = none

/-- What stands for a state is a tiding. -/
theorem Heeds.isTiding {state? : Happening → Option SessionState} (heeds : Heeds state?)
    {h : Happening} {state : SessionState} (hs : state? h = some state) : h.isTiding = true := by
  cases ht : h.isTiding with
  | true => rfl
  | false =>
    rw [heeds h ht] at hs
    cases hs

/-- The phases of startup stand for states, and nothing else does. -/
theorem heeds_startingState : Heeds startingState? := by
  intro h hh
  cases h with
  | startup phase => cases hh
  | _ => rfl

/-- The phases of shutdown stand for states, and nothing else does. -/
theorem heeds_stoppingState (reason : StopReason) : Heeds (stoppingState? reason) := by
  intro h hh
  cases h with
  | shutdown phase => cases hh
  | _ => rfl

section Follow

variable {α : Type} {state? : Happening → Option SessionState}

/-- Following announcements leads to the state that they stand for, and changes nothing else but
what waits. -/
theorem value_follow (heeds : Heeds state?) (e : Engine ℓ σ π) (x : Journaled α) :
    ∃ o, (e.follow state? x.entries).value =
      { e with outbox := o, state := reached state? e.state x.tidings } := by
  obtain ⟨a, entries⟩ := x
  induction entries generalizing e with
  | nil => exact ⟨e.outbox, rfl⟩
  | cons x xs ih =>
    cases hs : state? x.what with
    | none =>
      obtain ⟨o, ho⟩ := ih e
      refine ⟨o, ?_⟩
      cases ht : x.what.isTiding <;>
        simpa [follow, hs, tidings, ht, reached] using ho
    | some state =>
      have ht := heeds.isTiding hs
      obtain ⟨o, ho⟩ := e.value_enter state
      obtain ⟨o', ho'⟩ := ih { e with outbox := o, state }
      exact ⟨o', by simpa [follow, hs, ho, tidings, ht, reached] using ho'⟩

/-- Following announcements makes the calls of what it goes through. -/
theorem calls_follow (state? : Happening → Option SessionState) (e : Engine ℓ σ π)
    (x : Journaled α) : (e.follow state? x.entries).calls = x.calls := by
  obtain ⟨a, entries⟩ := x
  induction entries generalizing e with
  | nil => rfl
  | cons x xs ih =>
    have hx : (⟨a, x :: xs⟩ : Journaled α).calls =
        (repeatEntry x).calls ++ (⟨a, xs⟩ : Journaled α).calls := by
      cases hw : x.what <;> simp [calls, repeatEntry, hw]
    rw [hx]
    cases hs : state? x.what with
    | none => simp [follow, hs, ih]
    | some state => simp [follow, hs, ih]

/-- Following announcements tells what happens along them. -/
theorem events_follow (heeds : Heeds state?) (e : Engine ℓ σ π) (x : Journaled α) :
    (e.follow state? x.entries).events = along state? e.state x.tidings := by
  obtain ⟨a, entries⟩ := x
  induction entries generalizing e with
  | nil => rfl
  | cons x xs ih =>
    have hx : (repeatEntry x).events = x.what.event?.toList := events_repeatEntry x
    cases hs : state? x.what with
    | none =>
      -- What is no tiding offers no event either.
      cases ht : x.what.isTiding with
      | true =>
        have h := ih e
        simpa [follow, hs, hx, tidings, ht, along] using h
      | false =>
        have h := ih e
        simpa [follow, hs, hx, tidings, ht, Happening.event?_eq_none ht] using h
    | some state =>
      obtain ⟨o, ho⟩ := e.value_enter state
      have h := ih { e with outbox := o, state }
      simpa [follow, hs, hx, ho, tidings, heeds.isTiding hs, along] using h

end Follow

end Framecast.Engine

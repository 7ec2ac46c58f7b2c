import Framecast.Proofs.Session.Accounts

/-!
# What a report says

The answer to a frame tells what its submission did. A report comes after one frame sent, and gives
the packets and the bytes that the container took and the packets that it refused; without one, and
without an overflow, nothing was sent or written (`Submitted.reported`).
-/

namespace Framecast

/-- The bytes of the packets that the container takes. -/
def takenBytes (calls : List Call) : Nat :=
  ((calls.filterMap Call.taken?).map fun p => p.data.size).sum

/-- The bytes that are taken in some calls after others are those of both. -/
@[simp] theorem takenBytes_append (calls more : List Call) :
    takenBytes (calls ++ more) = takenBytes calls + takenBytes more := by
  simp [takenBytes]

/-- No calls, no bytes. -/
@[simp] theorem takenBytes_nil : takenBytes [] = 0 := rfl

/-- A call by which the container takes no packet adds no bytes. -/
theorem takenBytes_cons {c : Call} (h : c.taken? = none) (calls : List Call) :
    takenBytes (c :: calls) = takenBytes calls := by
  simp [takenBytes, h]

variable {ε κ : Type} [Encoder ε] [Container κ]

/-- The loop that pulls packets counts the bytes of those that the container takes. -/
theorem Pulled.bytes {stream : Nat} {stamp : Int64} {e e' : ε} {o o' : Outlet κ}
    {calls : List Call} {r : Except Overflow DrainOutcome}
    (h : Pulled stream stamp e o calls r e' o') : o'.bytes = o.bytes + takenBytes calls := by
  induction h with
  | @taken e e' e'' o o'' p ts c calls r received next written rest ih =>
    have htaken : takenBytes (.receive (.packet p) :: .writePacket (p.stamped stream ts) (.ok ()) ::
        calls) = p.data.size + takenBytes calls := by
      simp [takenBytes, Call.taken?, List.filterMap_cons, Packet.stamped]
    rw [ih, htaken, Outlet.taking]
    exact Nat.add_assoc _ _ _
  | @refused e e' e'' o o'' p ts f c calls r received next written rest ih =>
    rw [ih, takenBytes_cons rfl, takenBytes_cons rfl, Outlet.refusing]
  | overflowed => rfl
  | stopped => rfl

/-- What an answer to a frame says is what these calls did. -/
def Tells (calls : List Call) : Except SessionError DrainReport → Prop
  | .ok report =>
    (calls.filterMap Call.sent?).length = 1 ∧
      report.written = (calls.filterMap Call.taken?).length ∧
      report.bytes = takenBytes calls ∧
      report.writeFailures = (calls.filterMap Call.refused?).length
  | .error _ =>
    calls.filterMap Call.sent? = [] ∧ calls.filterMap Call.taken? = [] ∧
      calls.filterMap Call.refused? = []

omit [Encoder ε] [Container κ] in
/-- A frame that does not reach the encoder is answered with an error. -/
theorem Session.Refusal.error {s : Session ε κ} {f : CapturedFrame}
    {answer : Except SessionError DrainReport} (h : s.Refusal f (.ok answer)) :
    ∃ x, answer = .error x := by
  cases h with
  | _ => exact ⟨_, rfl⟩

/-- The answer to a frame says what its submission did. -/
theorem Session.Submitted.reported {s s' : Session ε κ} {f : CapturedFrame} {calls : List Call}
    {answer : Except SessionError DrainReport}
    (h : s.Submitted f calls (.ok answer) s') : Tells calls answer := by
  generalize hr : (Except.ok answer : Answer) = r at h
  cases h with
  | refused refusal =>
    subst hr
    obtain ⟨x, rfl⟩ := refusal.error
    exact ⟨rfl, rfl, rfl⟩
  | unsent =>
    obtain rfl := Except.ok.inj hr
    exact ⟨rfl, rfl, rfl⟩
  | @drained pts e more d accepts sent cycled =>
    cases cycled with
    | terminated terminal =>
      -- The drain of a session that accepts a frame is not terminal.
      have hlive : (s.sending e pts).drain.isTerminal = false := accepts.live
      rw [hlive] at terminal
      cases terminal
    | overflowed => cases hr
    | @settled _ outcome e' o live pulled =>
      obtain rfl := Except.ok.inj hr
      obtain ⟨hs, hw, hf⟩ := pulled.tally
      have hb := pulled.bytes
      refine ⟨?_, ?_, ?_, ?_⟩
      · simp [Call.sent?, hs]
      · simpa [Call.taken?, List.filterMap_cons, PacketDrain.outlet] using hw
      · rw [takenBytes_cons rfl]
        simpa [PacketDrain.outlet] using hb
      · simpa [Call.refused?, List.filterMap_cons, PacketDrain.outlet] using hf

end Framecast

import Framecast.Proofs.Drain.Delivery

/-!
# How far stamps drift

A drain wants every packet of a cycle to have the stamp of the cycle, and gives it the tick after
the last packet that was taken where that is later. Over the whole life of a drain, whatever stamps
its cycles want and whatever packets are refused, the stamps of the packets that are taken climb
from those that were wanted (`Climbed`). Their closed form follows (`stamps_in_closed_form`): a
packet is stamped with the greatest of the stamps wanted so far, each counted one tick later for
every packet taken since. What a refused packet would have had is left to the next.
-/

namespace Framecast

/-- A packet that is handed to a container. -/
structure Writing where
  /-- The stamp that its cycle wants. -/
  wanted : Int64
  /-- The packet with the stamp that it has. -/
  packet : Packet
  /-- What the container says to it. -/
  answer : Except Fault Unit

/-- The container took the packet. -/
def Writing.isTaken (w : Writing) : Bool := w.answer.isOk

/-- The packet that is handed on in a call, in a cycle that wants this stamp. -/
def Call.writing? (wanted : Int64) : Call → Option Writing
  | .writePacket p answer => some ⟨wanted, p, answer⟩
  | _ => none

/-- The packets that were taken. -/
def takenOf (ws : List Writing) : List Writing := ws.filter Writing.isTaken

/-- The stamps that were wanted for the packets that were taken. -/
def wantedOf (ws : List Writing) : List Int := (takenOf ws).map (·.wanted.toInt)

/-- The stamps that were wanted for the packets up to number `k`, each counted one tick later for
every packet since. -/
def carriedTo (k : ℕ) (ws : List Writing) : Set ℤ :=
  {x | ∃ (j : ℕ) (v : Writing), j ≤ k ∧ ws[j]? = some v ∧ x = v.wanted.toInt + ((k : ℤ) - j)}

/-- The packet has the stamp that it would have as the next one taken after the others. -/
def Writing.StampedAfter (earlier : List Writing) (w : Writing) : Prop :=
  climb none (wantedOf earlier ++ [w.wanted.toInt]) =
    climb none (wantedOf earlier) ++ [w.packet.dts.toInt]

/-- The packets climb: each is stamped after those that were taken before it, and the last stamp is
that of the last one taken. -/
structure Climbed (ws : List Writing) (last : Option Int64) : Prop where
  /-- It is presented when it is decoded, after those that were taken. -/
  each : ∀ earlier w later, ws = earlier ++ w :: later →
    w.packet.pts = w.packet.dts ∧ w.StampedAfter earlier
  /-- The last stamp is remembered. -/
  last_eq : last.map Int64.toInt = (climb none (wantedOf ws)).getLast?

section

variable {ws : List Writing} {w : Writing} {last : Option Int64} {wanted ts : Int64}

/-- A packet that is taken adds the stamp that was wanted for it. -/
theorem wantedOf_taken (ws : List Writing) (taken : w.isTaken = true) :
    wantedOf (ws ++ [w]) = wantedOf ws ++ [w.wanted.toInt] := by
  simp [wantedOf, takenOf, taken]

/-- A packet that is refused adds nothing. -/
theorem wantedOf_refused (ws : List Writing) (refused : w.isTaken = false) :
    wantedOf (ws ++ [w]) = wantedOf ws := by
  simp [wantedOf, takenOf, refused]

/-- A packet that is handed on with the next stamp climbs. It is the last one if it is taken. -/
theorem Climbed.next (h : Climbed ws last) (next : nextStamp last wanted = .ok ts) (stream : Nat)
    (p : Packet) (answer : Except Fault Unit) :
    Climbed (ws ++ [⟨wanted, p.stamped stream ts, answer⟩])
      (if answer.isOk then some ts else last) := by
  have hstamp := toInt_nextStamp next
  rw [h.last_eq] at hstamp
  have hafter : Writing.StampedAfter ws ⟨wanted, p.stamped stream ts, answer⟩ := by
    unfold Writing.StampedAfter
    rw [climb_concat, Option.or_none, ← hstamp]
    rfl
  constructor
  · refine forall_split_append h.each ?_
    intro earlier w later hw
    cases earlier with
    | nil =>
      obtain ⟨rfl, -⟩ := List.cons.inj hw
      rw [List.append_nil]
      exact ⟨rfl, hafter⟩
    | cons v earlier => simp at hw
  · cases answer with
    | ok u =>
      rw [wantedOf_taken ws rfl, hafter, List.getLast?_concat]
      rfl
    | error f =>
      rw [wantedOf_refused ws rfl]
      exact h.last_eq

/-- A stamp that packets climb to is the greatest that is carried to it. -/
theorem isGreatest_carriedTo {k : ℕ} {t : ℤ}
    (h : (climb none (ws.map (·.wanted.toInt)))[k]? = some t) : IsGreatest (carriedTo k ws) t := by
  have hset : carriedTo k ws = {x | ∃ j s, j ≤ k ∧ (ws.map (·.wanted.toInt))[j]? = some s ∧
      x = s + ((k : ℤ) - j)} := by
    ext x
    simp [carriedTo]
  rw [hset]
  exact climb_isGreatest h

/-- The stamps of the packets that were taken climb from the wanted ones. The induction is on the
packets, the last one first. -/
theorem climb_wantedOf
    (each : ∀ earlier w later, ws = earlier ++ w :: later → w.StampedAfter earlier) :
    climb none (wantedOf ws) = (takenOf ws).map (·.packet.dts.toInt) := by
  induction ws using List.reverseRecOn with
  | nil => rfl
  | append_singleton ws w ih =>
    have hws : climb none (wantedOf ws) = (takenOf ws).map (·.packet.dts.toInt) := by
      apply ih
      intro earlier v later h
      apply each earlier v (later ++ [w])
      rw [h, List.append_assoc, List.cons_append]
    have hw := each ws w [] rfl
    unfold Writing.StampedAfter at hw
    cases htaken : w.isTaken with
    | true =>
      rw [wantedOf_taken ws htaken, hw, hws]
      simp [takenOf, htaken]
    | false =>
      rw [wantedOf_refused ws htaken, hws]
      simp [takenOf, htaken]

end

section

variable {ε κ : Type} [Encoder ε] [Container κ] {ws : List Writing}

/-- While packets are pulled, they climb. The induction is on the loop. -/
theorem Pulled.climbed {stream : Nat} {stamp : Int64} {e e' : ε} {o o' : Outlet κ}
    {calls : List Call} {r : Except Overflow DrainOutcome}
    (pulled : Pulled stream stamp e o calls r e' o') (h : Climbed ws o.lastDts) :
    Climbed (ws ++ calls.filterMap (Call.writing? stamp)) o'.lastDts := by
  induction pulled generalizing ws with
  | @taken e e' e'' o o'' p ts c calls r received next written rest ih =>
    have hrest := ih (h.next next stream p (.ok ()))
    rw [List.append_assoc] at hrest
    exact hrest
  | @refused e e' e'' o o'' p ts f c calls r received next written rest ih =>
    have hrest := ih (h.next next stream p (.error f))
    rw [List.append_assoc] at hrest
    exact hrest
  | overflowed received next | stopped received ends =>
    rw [show List.filterMap (Call.writing? stamp) _ = [] from rfl, List.append_nil]
    exact h

/-- In a cycle, packets climb. -/
theorem Cycled.climbed {d : PacketDrain} {e : ε} {timeBase : Rational} {stream : OutputStream}
    {pts : Int64} {c : κ} {calls : List Call} {drained : Drained ε κ}
    (h : Cycled d e timeBase stream pts c calls drained) (climbed : Climbed ws d.lastDts) :
    Climbed (ws ++ calls.filterMap (Call.writing? (cycleStamp c stream timeBase pts)))
      drained.drain.lastDts := by
  cases h with
  | terminated _ =>
    rw [List.filterMap_nil, List.append_nil]
    exact climbed
  | overflowed _ pulled => exact pulled.climbed climbed
  | settled _ pulled => exact pulled.climbed climbed

end

namespace PacketDrain

/-- A drain and all packets that were handed on in its life: it is new, and then goes through
cycles, each with an encoder, a stream and a container of its own, and with the time of a frame,
which gives the stamp that is wanted in the cycle. -/
inductive Written : List Writing → PacketDrain → Prop
  /-- It is new. -/
  | new : Written [] {}
  /-- It goes through a cycle. -/
  | cycled {ws : List Writing} {d : PacketDrain} (h : Written ws d) {ε κ : Type} [Encoder ε]
      [Container κ] (e : ε) (timeBase : Rational) (stream : OutputStream) (pts : Int64) (c : κ) :
      Written (ws ++ (d.cycle e timeBase stream pts c).calls.filterMap
          (Call.writing? (cycleStamp c stream timeBase pts)))
        (d.cycle e timeBase stream pts c).value.drain

variable {ws : List Writing} {d : PacketDrain}

/-- In the life of a drain, packets climb. -/
theorem Written.climbed (h : Written ws d) : Climbed ws d.lastDts := by
  induction h with
  | new => exact ⟨fun earlier w later h => absurd h.symm (by simp), rfl⟩
  | cycled _ e timeBase stream pts c ih => exact (cycle_cycled _ e timeBase stream pts c).climbed ih

/-- The stamps of the packets taken in the life of a drain, in closed form. Packet number `k` is
stamped with the greatest of the stamps that were wanted for the packets up to it, each counted one
tick later for every packet taken since. So whatever bounds the stamps wanted so far, it exceeds
that by fewer ticks than packets were taken so far. Any packet that is handed on, refused or not,
has the stamp that it would have as the next one taken: those that were refused before it count for
nothing. -/
theorem stamps_in_closed_form (written : Written ws d) :
    (∀ (k : ℕ) (w : Writing), (takenOf ws)[k]? = some w →
      w.packet.pts = w.packet.dts ∧ IsGreatest (carriedTo k (takenOf ws)) w.packet.dts.toInt ∧
      ∀ bound : ℤ,
        (∀ (j : ℕ) (v : Writing), j ≤ k → (takenOf ws)[j]? = some v → v.wanted.toInt ≤ bound) →
          w.packet.dts.toInt < bound + (k + 1)) ∧
    ∀ earlier w later, ws = earlier ++ w :: later →
      IsGreatest (carriedTo (takenOf earlier).length (takenOf earlier ++ [w]))
        w.packet.dts.toInt := by
  have hclimbed := written.climbed
  constructor
  · intro k w hw
    -- Among the packets taken, number `k` is where the climb is after `k` stamps.
    have hdts : (climb none (wantedOf ws))[k]? = some w.packet.dts.toInt := by
      rw [climb_wantedOf fun earlier w later h => (hclimbed.each earlier w later h).2,
        List.getElem?_map, hw]
      rfl
    have hgreatest := isGreatest_carriedTo hdts
    refine ⟨?_, hgreatest, ?_⟩
    · have hmem : w ∈ ws := List.mem_of_mem_filter (List.mem_of_getElem? hw)
      obtain ⟨earlier, later, h⟩ := List.append_of_mem hmem
      exact (hclimbed.each earlier w later h).1
    · intro bound bounded
      obtain ⟨j, v, hj, hv, hvalue⟩ := hgreatest.1
      have hle := bounded j v hj hv
      omega
  · intro earlier w later h
    obtain ⟨-, hafter⟩ := hclimbed.each earlier w later h
    have hlength : (climb none (wantedOf earlier)).length = (takenOf earlier).length := by
      rw [length_climb, wantedOf, List.length_map]
    apply isGreatest_carriedTo
    rw [List.map_append, List.map_singleton]
    show (climb none (wantedOf earlier ++ [w.wanted.toInt]))[_]? = _
    rw [hafter, ← hlength]
    exact List.getElem?_concat_length

/-- Everything that was handed on in the two cycles of a drain that is given a burst. -/
def burstWritings : List Writing :=
  (firstCycle.calls ++ burstCycle.calls).filterMap (Call.writing? 0)

/-- Of four packets, all wanted at zero, the third is refused. The fourth is stamped two ticks late,
as two were taken before it. -/
theorem stamps_in_closed_form_sample :
    Written burstWritings burstCycle.value.drain ∧
      burstWritings.map (fun w => (w.wanted, w.packet.dts, w.isTaken)) =
        [(0, 0, true), (0, 1, true), (0, 2, false), (0, 2, true)] ∧
      ∃ w, (takenOf burstWritings)[2]? = some w ∧ w.packet.dts.toInt = 2 ∧
        IsGreatest (carriedTo 2 (takenOf burstWritings)) w.packet.dts.toInt ∧
        w.packet.dts.toInt < 0 + (2 + 1) := by
  have hfirst : Written ([] ++ firstCycle.calls.filterMap (Call.writing? (cycleStamp refusingThird
      ⟨0, .microsecond, ⟨60, 1⟩⟩ .microsecond 0))) firstCycle.value.drain :=
    .cycled .new _ _ _ _ _
  have hwritten := hfirst.cycled burstEncoder .microsecond ⟨0, .microsecond, ⟨60, 1⟩⟩ 0
    firstCycle.value.container
  have hstamp : cycleStamp refusingThird ⟨0, .microsecond, ⟨60, 1⟩⟩ .microsecond 0 = 0 := by cbv
  have hstamp' : cycleStamp firstCycle.value.container ⟨0, .microsecond, ⟨60, 1⟩⟩ .microsecond 0 =
      0 := by
    cbv
  rw [hstamp, hstamp', List.nil_append, ← List.filterMap_append] at hwritten
  have hwritings : burstWritings.map (fun w => (w.wanted, w.packet.dts, w.isTaken)) =
      [(0, 0, true), (0, 1, true), (0, 2, false), (0, 2, true)] := by
    cbv
  have htaken : (takenOf burstWritings).map (fun w => (w.wanted.toInt, w.packet.dts.toInt)) =
      [(0, 0), (0, 1), (0, 2)] := by
    cbv
  obtain ⟨w, hw, hvalue⟩ : ∃ w, (takenOf burstWritings)[2]? = some w ∧
      (w.wanted.toInt, w.packet.dts.toInt) = (0, 2) := by
    have h := congrArg (·[2]?) htaken
    rw [List.getElem?_map] at h
    exact Option.map_eq_some_iff.mp h
  have hwanted : ∀ (j : ℕ) (v : Writing), j ≤ 2 → (takenOf burstWritings)[j]? = some v →
      v.wanted.toInt ≤ 0 := by
    intro j v _ hv
    have hmem := List.mem_map_of_mem (f := fun w => (w.wanted.toInt, w.packet.dts.toInt))
      (List.mem_of_getElem? hv)
    rw [htaken] at hmem
    simp only [List.mem_cons, Prod.mk.injEq, List.not_mem_nil, or_false] at hmem
    omega
  obtain ⟨-, hgreatest, hbound⟩ := (stamps_in_closed_form hwritten).1 2 w hw
  exact ⟨hwritten, hwritings, w, hw, (Prod.mk.inj hvalue).2, hgreatest, hbound 0 hwanted⟩

end PacketDrain

end Framecast

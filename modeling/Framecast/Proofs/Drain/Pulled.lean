import Framecast.Container.Drain
import Framecast.Proofs.Calls

/-!
# What a drain cycle does

`Pulled` says step by step what pulling packets does to the encoder and the outlet and which calls
it makes: a packet that the container takes, one that it refuses, one whose stamp overflows, and the
answer that ends it. `pull_pulled` shows that the loop is such a run, and `cycle_cycled` says the
same of a whole cycle, so that what holds of every cycle is proved by induction over `Pulled`,
without the journal.
-/

namespace Framecast

open Journaled

/-- The packet as it is handed to the container: marked with its stream, presented and decoded at
`ts`. -/
def Packet.stamped (p : Packet) (stream : Nat) (ts : Int64) : Packet :=
  { p with stream, pts := ts, dts := ts }

/-- What an answer that is no packet makes of the cycle. -/
def Received.outcome? : Received → Option DrainOutcome
  | .packet _ => none
  | .again => some .exhausted
  | .endOfStream => some .endOfStream
  | .failed f => some (.stalled f)

section Pulled

variable {ε κ : Type} [Encoder ε] [Container κ]

/-- The outlet after the container took a packet of so many bytes. -/
def Outlet.taking (o : Outlet κ) (container : κ) (ts : Int64) (bytes : Nat) : Outlet κ :=
  { o with container, lastDts := some ts, written := o.written + 1, bytes := o.bytes + bytes }

/-- The outlet after the container refused a packet. -/
def Outlet.refusing (o : Outlet κ) (container : κ) : Outlet κ :=
  { o with container, writeFailures := o.writeFailures + 1 }

/-- A run of the loop that pulls packets: from an encoder and an outlet, by these calls, to an
outcome, an encoder and an outlet. -/
inductive Pulled (stream : Nat) (stamp : Int64) :
    ε → Outlet κ → List Call → Except Overflow DrainOutcome → ε → Outlet κ → Prop
  /-- The container takes a packet, and the loop goes on. -/
  | taken {e e' e'' : ε} {o o'' : Outlet κ} {p : Packet} {ts : Int64} {c : κ} {calls : List Call}
      {r : Except Overflow DrainOutcome} (received : Encoder.receive e = (.packet p, e'))
      (next : nextStamp o.lastDts stamp = .ok ts)
      (written : Container.writePacket o.container (p.stamped stream ts) = (.ok (), c))
      (rest : Pulled stream stamp e' (o.taking c ts p.data.size) calls r e'' o'') :
      Pulled stream stamp e o
        (.receive (.packet p) :: .writePacket (p.stamped stream ts) (.ok ()) :: calls) r e'' o''
  /-- The container refuses a packet, and the loop goes on. -/
  | refused {e e' e'' : ε} {o o'' : Outlet κ} {p : Packet} {ts : Int64} {f : Fault} {c : κ}
      {calls : List Call} {r : Except Overflow DrainOutcome}
      (received : Encoder.receive e = (.packet p, e'))
      (next : nextStamp o.lastDts stamp = .ok ts)
      (written : Container.writePacket o.container (p.stamped stream ts) = (.error f, c))
      (rest : Pulled stream stamp e' (o.refusing c) calls r e'' o'') :
      Pulled stream stamp e o
        (.receive (.packet p) :: .writePacket (p.stamped stream ts) (.error f) :: calls) r e'' o''
  /-- The stamp of a packet overflows, and the loop ends there. -/
  | overflowed {e e' : ε} {o : Outlet κ} {p : Packet} {x : Overflow}
      (received : Encoder.receive e = (.packet p, e'))
      (next : nextStamp o.lastDts stamp = .error x) :
      Pulled stream stamp e o [.receive (.packet p)] (.error x) e' o
  /-- The encoder answers with something else than a packet, and the loop ends. -/
  | stopped {e e' : ε} {o : Outlet κ} {a : Received} {outcome : DrainOutcome}
      (received : Encoder.receive e = (a, e')) (ends : a.outcome? = some outcome) :
      Pulled stream stamp e o [.receive a] (.ok outcome) e' o

/-- Writing one packet, by whether its stamp fits and what the container says to it. -/
theorem Outlet.write_cases (o : Outlet κ) (stream : Nat) (stamp : Int64) (p : Packet) :
    (∃ x, nextStamp o.lastDts stamp = .error x ∧
      (o.write stream stamp p).value = (.error x, o) ∧ (o.write stream stamp p).calls = []) ∨
    ∃ ts answer c, nextStamp o.lastDts stamp = .ok ts ∧
      Container.writePacket o.container (p.stamped stream ts) = (answer, c) ∧
      (o.write stream stamp p).calls = [.writePacket (p.stamped stream ts) answer] ∧
      (o.write stream stamp p).value = (.ok (), match answer with
        | .ok () => o.taking c ts p.data.size
        | .error _ => o.refusing c) := by
  cases hn : nextStamp o.lastDts stamp with
  | error x =>
    left
    refine ⟨x, rfl, ?_, ?_⟩
    · simp [Outlet.write, hn]
    · simp [Outlet.write, hn]
  | ok ts =>
    right
    rcases hw : Container.writePacket o.container (p.stamped stream ts) with ⟨answer, c⟩
    refine ⟨ts, answer, c, rfl, hw, ?_⟩
    unfold Packet.stamped at hw
    -- The calls do not depend on the answer, but the outlet counts it.
    cases answer with
    | ok _ => simp [Outlet.write, hn, hw, Outlet.taking, Packet.stamped]
    | error f => simp [Outlet.write, hn, hw, Outlet.refusing, Packet.stamped]

/-- The loop on an encoder that gives a packet: it is written, and the loop goes on unless its stamp
overflowed. -/
theorem pull_packet {stream : Nat} {stamp : Int64} {e e' : ε} {p : Packet} (o : Outlet κ)
    (h : Encoder.receive e = (.packet p, e')) :
    pull stream stamp e o = (do
      call (.receive (.packet p))
      let (r, o) ← o.write stream stamp p
      match r with
      | .error x => return (.error x, e', o)
      | .ok () => pull stream stamp e' o) := by
  rw [pull]
  -- The loop splits on the encoder's answer, which is known here: the other cases are void.
  split
  · rename_i q e'' hq
    rw [h] at hq
    obtain ⟨hp, rfl⟩ := Prod.mk.inj hq
    obtain rfl := Received.packet.inj hp
    rfl
  all_goals
    rename_i hq
    rw [h] at hq
    simp at hq

/-- The loop on an encoder that gives no packet ends with what the answer makes of it. -/
theorem pull_stopped (stream : Nat) (stamp : Int64) {e e' : ε} {a : Received}
    {outcome : DrainOutcome} (o : Outlet κ) (h : Encoder.receive e = (a, e'))
    (ends : a.outcome? = some outcome) :
    (pull stream stamp e o).value = (.ok outcome, e', o) ∧
      (pull stream stamp e o).calls = [.receive a] := by
  rw [pull]
  split <;> rename_i hq <;> rw [h] at hq <;> obtain ⟨rfl, rfl⟩ := Prod.mk.inj hq
  · simp [Received.outcome?] at ends
  all_goals
    obtain rfl := Option.some.inj ends
    simp

/-- Pulling packets is a run of the loop. The induction is on the encoder's backlog, which each
packet makes smaller. -/
theorem pull_pulled (stream : Nat) (stamp : Int64) (e : ε) (o : Outlet κ) :
    Pulled stream stamp e o (pull stream stamp e o).calls (pull stream stamp e o).value.1
      (pull stream stamp e o).value.2.1 (pull stream stamp e o).value.2.2 := by
  induction hb : Encoder.backlog e using Nat.strongRecOn generalizing e o with
  | ind n ih =>
    rcases h : Encoder.receive e with ⟨a, e'⟩
    cases ha : a.outcome? with
    | some outcome =>
      obtain ⟨hv, hc⟩ := pull_stopped stream stamp o h ha
      rw [hv, hc]
      exact .stopped h ha
    | none =>
      -- Only a packet lets the loop go on, and it leaves the encoder a smaller backlog.
      obtain ⟨p, rfl⟩ : ∃ p, a = .packet p := by
        cases a <;> simp [Received.outcome?] at ha ⊢
      have hlt : Encoder.backlog e' < n := hb ▸ Encoder.backlog_receive e p e' h
      rw [pull_packet o h]
      rcases o.write_cases stream stamp p with ⟨x, hn, hv, hc⟩ | ⟨ts, answer, c, hn, hw, hc, hv⟩
      · simpa [hv, hc] using Pulled.overflowed h hn
      · cases answer with
        | ok u => simpa [hv, hc] using Pulled.taken h hn hw (ih _ hlt e' _ rfl)
        | error f => simpa [hv, hc] using Pulled.refused h hn hw (ih _ hlt e' _ rfl)

/-- What the packets of a cycle are stamped with: the last frame's timestamp, in the time base that
the container writes the stream in. -/
def cycleStamp (container : κ) (stream : OutputStream) (encoderTimeBase : Rational)
    (lastFramePts : Int64) : Int64 :=
  Rational.rescale lastFramePts encoderTimeBase
    ((Container.timeBase? container stream.index).getD stream.timeBase)

/-- The outlet that a cycle begins with. -/
def PacketDrain.outlet (d : PacketDrain) (container : κ) : Outlet κ :=
  ⟨container, d.lastDts, 0, 0, 0⟩

/-- The ways a drain cycle goes: it is not accepted, it ends in an overflow, or it runs until the
encoder has no packet. -/
inductive Cycled (d : PacketDrain) (e : ε) (timeBase : Rational) (stream : OutputStream)
    (pts : Int64) (c : κ) : List Call → Drained ε κ → Prop
  /-- The encoder has reported end of stream, so that nothing is asked of it. -/
  | terminated (terminal : d.isTerminal = true) :
      Cycled d e timeBase stream pts c [] ⟨.ok (.error .encoderTerminated), d, e, c⟩
  /-- A stamp overflows: what was written by then stays written, and uncounted. -/
  | overflowed {calls : List Call} {x : Overflow} {e' : ε} {o : Outlet κ}
      (live : d.isTerminal = false)
      (pulled : Pulled stream.index (cycleStamp c stream timeBase pts) e (d.outlet c) calls
        (.error x) e' o) :
      Cycled d e timeBase stream pts c calls
        ⟨.error x, { d with state := .draining, lastDts := o.lastDts }, e', o.container⟩
  /-- The cycle is complete: it is reported and counted. -/
  | settled {calls : List Call} {outcome : DrainOutcome} {e' : ε} {o : Outlet κ}
      (live : d.isTerminal = false)
      (pulled : Pulled stream.index (cycleStamp c stream timeBase pts) e (d.outlet c) calls
        (.ok outcome) e' o) :
      Cycled d e timeBase stream pts c calls
        ⟨.ok (.ok ⟨o.written, o.bytes, o.writeFailures, outcome⟩), d.settle o outcome, e',
          o.container⟩

/-- A drain cycle goes one of these ways. -/
theorem cycle_cycled (d : PacketDrain) (e : ε) (timeBase : Rational) (stream : OutputStream)
    (pts : Int64) (c : κ) :
    Cycled d e timeBase stream pts c (d.cycle e timeBase stream pts c).calls
      (d.cycle e timeBase stream pts c).value := by
  cases ht : d.isTerminal with
  | true =>
    simp only [PacketDrain.cycle, ht, if_true]
    exact .terminated ht
  | false =>
    have hp := pull_pulled stream.index (cycleStamp c stream timeBase pts) e (d.outlet c)
    -- A complete cycle is a run of the loop, from the outlet of the drain.
    rcases hx : pull stream.index (cycleStamp c stream timeBase pts) e (d.outlet c) with
      ⟨⟨r, e', o⟩, entries⟩
    rw [hx] at hp
    unfold cycleStamp PacketDrain.outlet at hx
    cases r with
    | error x => simpa [PacketDrain.cycle, ht, hx] using Cycled.overflowed ht hp
    | ok outcome => simpa [PacketDrain.cycle, ht, hx] using Cycled.settled ht hp

/-- The loop that pulls packets does nothing but move them along. -/
theorem Pulled.transfers {stream : Nat} {stamp : Int64} {e e' : ε} {o o' : Outlet κ}
    {calls : List Call} {r : Except Overflow DrainOutcome}
    (h : Pulled stream stamp e o calls r e' o') : ∀ c ∈ calls, c.transfers = true := by
  induction h with
  | taken _ _ _ _ ih => simpa [Call.transfers] using ih
  | refused _ _ _ _ ih => simpa [Call.transfers] using ih
  | overflowed _ _ => simp [Call.transfers]
  | stopped _ _ => simp [Call.transfers]

/-- A drain cycle does nothing but move packets along. -/
theorem Cycled.transfers {d : PacketDrain} {e : ε} {timeBase : Rational} {stream : OutputStream}
    {pts : Int64} {c : κ} {calls : List Call} {drained : Drained ε κ}
    (h : Cycled d e timeBase stream pts c calls drained) : ∀ c ∈ calls, c.transfers = true := by
  cases h with
  | terminated _ => exact fun _ hc => absurd hc List.not_mem_nil
  | overflowed _ pulled => exact pulled.transfers
  | settled _ pulled => exact pulled.transfers

end Pulled

end Framecast

import Framecast.Proofs.Drain.Pulled
import Framecast.Proofs.Drain.Stamp
import Framecast.Proofs.Time.Rescaling

/-!
# Packets on time

A packet has the wanted stamp unless that does not come after the last packet's. Timestamps that
increase are rescaled to stamps that increase, where the container counts ticks as short as the
encoder's or shorter, so that the next stamp is the wanted one (`nextStamp_rescaled`): all that can
keep a packet from it is the end of the range. That is so for a cycle that receives one packet
(`Pulled.punctual`). Whatever is wanted, a packet is stamped after all that were taken before it
(`Pulled.ahead`).
-/

namespace Framecast

open Rational

/-- After the stamps of earlier timestamps, a timestamp is stamped with its own ticks or not at all,
and it is stamped if it fits. -/
theorem nextStamp_rescaled {source target : Rational} (hs : source.isPositive = true)
    (ht : target.isPositive = true) (fine : target.toRat ≤ source.toRat) {last : Option Int64}
    {pts : Int64} (past : ∀ t, last = some t →
      ∃ earlier : Int64, 0 ≤ earlier.toInt ∧ earlier < pts ∧ t = rescale earlier source target) :
    (∀ ts, nextStamp last (rescale pts source target) = .ok ts → ts = rescale pts source target) ∧
      (Fits (exactTicks pts source target) →
        nextStamp last (rescale pts source target) = .ok (rescale pts source target)) := by
  cases last with
  | none => exact ⟨fun ts h => (Except.ok.inj h).symm, fun _ => rfl⟩
  | some t =>
    obtain ⟨earlier, hnonneg, hlt, rfl⟩ := past t rfl
    obtain ⟨y, z, hz, hy, hyz, hearlier, hwanted⟩ := rescale_climbs hs ht fine hnonneg hlt
    rw [hearlier, hwanted]
    have hlast := toInt_saturated y
    have hnext := toInt_saturated z
    rw [Int64.toInt_minValue, Int64.toInt_maxValue] at hlast hnext
    by_cases hroom : y < 2 ^ 63 - 1
    · -- The last stamp is not cut off, and the next tick is later.
      have hnot : ¬ saturated z ≤ saturated y := by
        rw [Int64.le_iff_toInt_le, hlast, hnext]
        omega
      have hstamp : nextStamp (some (saturated y)) (saturated z) = .ok (saturated z) := by
        simp only [nextStamp, hnot, if_false]
      exact ⟨fun ts h => (Except.ok.inj (hstamp.symm.trans h)).symm, fun _ => hstamp⟩
    · -- Both are cut off, and there is no tick left.
      have hmax : saturated y = Int64.maxValue := by
        rw [← Int64.toInt_inj, hlast, Int64.toInt_maxValue]
        omega
      have hle : saturated z ≤ saturated y := by
        rw [Int64.le_iff_toInt_le, hlast, hnext]
        omega
      have hnone : nextStamp (some (saturated y)) (saturated z) = .error .addition := by
        simp only [nextStamp, hle, if_true]
        rw [hmax]
        rfl
      constructor
      · intro ts h
        cases hnone.symm.trans h
      · rintro ⟨u, hu⟩
        obtain rfl := hz.unique hu
        have hupper := u.toInt_lt
        omega

section

variable {ε κ : Type} [Encoder ε] [Container κ]

/-- A cycle that is not refused pulls packets. -/
theorem Cycled.pulled {d : PacketDrain} {e : ε} {timeBase : Rational} {stream : OutputStream}
    {pts : Int64} {c : κ} {calls : List Call} {drained : Drained ε κ} (live : d.isTerminal = false)
    (h : Cycled d e timeBase stream pts c calls drained) :
    ∃ r e' o, Pulled stream.index (cycleStamp c stream timeBase pts) e (d.outlet c) calls r e' o ∧
      drained.drain.lastDts = o.lastDts := by
  cases h with
  | terminated terminal =>
    rw [live] at terminal
    cases terminal
  | overflowed _ pulled => exact ⟨_, _, _, pulled, rfl⟩
  | settled _ pulled => exact ⟨_, _, _, pulled, rfl⟩

variable {stream : Nat} {stamp : Int64} {e e' : ε} {o o' : Outlet κ} {before calls more : List Call}
  {r : Except Overflow DrainOutcome}

/-- A loop that receives no packet stops at once. -/
theorem Pulled.of_unreceived (pulled : Pulled stream stamp e o calls r e' o')
    (none : calls.filterMap Call.received? = []) :
    calls.filterMap Call.handed? = [] ∧ o' = o := by
  cases pulled with
  | taken | refused | overflowed => cases none
  | stopped received ends => exact ⟨rfl, rfl⟩

/-- After a packet that is handed on, a loop stops at once if no other is received. -/
theorem Pulled.after_single (pulled : Pulled stream stamp e o more r e' o') {p : Packet}
    {ts : Int64} {answer : Except Fault Unit}
    (single : ((.receive (.packet p) :: .writePacket (p.stamped stream ts) answer ::
      more).filterMap Call.received?).length ≤ 1) :
    let calls := .receive (.packet p) :: .writePacket (p.stamped stream ts) answer :: more
    calls.filterMap Call.handed? = [p.stamped stream ts] ∧
      calls.filterMap Call.received? = [p] ∧ o' = o := by
  have hnone : more.filterMap Call.received? = [] := by simpa [Call.received?] using single
  obtain ⟨hhanded, hsame⟩ := pulled.of_unreceived hnone
  exact ⟨congrArg (_ :: ·) hhanded, congrArg (p :: ·) hnone, hsame⟩

/-- A loop that receives at most one packet hands it on with the wanted stamp, if the next stamp is
never another one: unless it overflows. The last stamp is then that one, or it was left alone. -/
theorem Pulled.punctual (pulled : Pulled stream stamp e o calls r e' o')
    (single : (calls.filterMap Call.received?).length ≤ 1)
    (wanted : ∀ ts, nextStamp o.lastDts stamp = .ok ts → ts = stamp) :
    (∀ p ∈ calls.filterMap Call.handed?, p.pts = stamp ∧ p.dts = stamp) ∧
      (nextStamp o.lastDts stamp = .ok stamp → calls.filterMap Call.handed? =
        (calls.filterMap Call.received?).map (·.stamped stream stamp)) ∧
      (o'.lastDts = some stamp ∨ o'.lastDts = o.lastDts) := by
  cases pulled with
  | taken _ next _ rest =>
    obtain rfl := wanted _ next
    obtain ⟨hhanded, hreceived, rfl⟩ := rest.after_single single
    rw [hhanded, hreceived]
    exact ⟨List.forall_mem_singleton.mpr ⟨rfl, rfl⟩, fun _ => rfl, .inl rfl⟩
  | refused _ next _ rest =>
    obtain rfl := wanted _ next
    obtain ⟨hhanded, hreceived, rfl⟩ := rest.after_single single
    rw [hhanded, hreceived]
    exact ⟨List.forall_mem_singleton.mpr ⟨rfl, rfl⟩, fun _ => rfl, .inr rfl⟩
  | overflowed _ next =>
    refine ⟨fun p hp => absurd hp List.not_mem_nil, fun fits => ?_, .inr rfl⟩
    cases next.symm.trans fits
  | @stopped _ _ _ a _ _ ends =>
    refine ⟨fun p hp => absurd hp List.not_mem_nil, fun _ => ?_, .inr rfl⟩
    cases a with
    | packet p => cases ends
    | _ => rfl

/-! ## What comes later -/

/-- Every packet that is handed on in these calls is stamped after all that were taken before it,
in these calls and in those before them. -/
def Ahead (before calls : List Call) : Prop :=
  ∀ earlier p answer later, calls = earlier ++ .writePacket p answer :: later →
    ∀ q ∈ (before ++ earlier).filterMap Call.taken?, q.dts < p.dts ∧ q.pts < p.pts

/-- No packet that was taken in these calls is stamped after the last stamp. -/
def Passed (calls : List Call) (last : Option Int64) : Prop :=
  ∀ q ∈ calls.filterMap Call.taken?, q.pts = q.dts ∧ ∃ t, last = some t ∧ q.dts ≤ t

/-- Calls that hand nothing on are not behind anything. -/
theorem Ahead.of_unhanded (h : calls.filterMap Call.handed? = []) : Ahead before calls := by
  intro earlier p answer later hcalls
  rw [hcalls, List.filterMap_append] at h
  cases (List.append_eq_nil_iff.mp h).2

/-- What is ahead of some calls may come after them. -/
theorem Ahead.append (first : Ahead before calls) (second : Ahead (before ++ calls) more) :
    Ahead before (calls ++ more) := by
  intro earlier p answer later h
  refine forall_split_append (P := fun earlier c => ∀ p answer, c = .writePacket p answer →
    ∀ q ∈ (before ++ earlier).filterMap Call.taken?, q.dts < p.dts ∧ q.pts < p.pts) ?_ ?_
    earlier _ later h p answer rfl
  · rintro earlier _ later h p answer rfl
    exact first earlier p answer later h
  · rintro earlier _ later h p answer rfl
    rw [← List.append_assoc]
    exact second earlier p answer later h

/-- A packet that is handed on is ahead if it is stamped after all that were taken. -/
theorem Ahead.handed {p : Packet} {answer : Except Fault Unit}
    (later : ∀ q ∈ before.filterMap Call.taken?, q.dts < p.dts ∧ q.pts < p.pts) :
    Ahead before [.writePacket p answer] := by
  intro earlier p' answer' rest hcalls
  cases earlier with
  | nil =>
    obtain ⟨hcall, -⟩ := List.cons.inj hcalls
    obtain ⟨rfl, -⟩ := Call.writePacket.inj hcall
    rw [List.append_nil]
    exact later
  | cons c earlier => simp at hcalls

/-- A packet with the next stamp is ahead of what was taken before. -/
theorem Passed.ahead {last : Option Int64} {ts : Int64} (h : Passed before last) (p : Packet)
    (next : nextStamp last stamp = .ok ts) (answer : Except Fault Unit) :
    Ahead before [.receive (.packet p), .writePacket (p.stamped stream ts) answer] := by
  have hreceived : Ahead before [.receive (.packet p)] := .of_unhanded rfl
  refine hreceived.append (.handed ?_)
  intro q hq
  rw [List.filterMap_append] at hq
  obtain ⟨hsame, t, rfl, hle⟩ := h q (by simpa [Call.taken?] using hq)
  have hlt : q.dts < ts := Int64.lt_of_le_of_lt hle (lt_of_nextStamp next)
  exact ⟨hlt, hsame ▸ hlt⟩

/-- A packet that is taken with the next stamp is the last one. -/
theorem Passed.taken {last : Option Int64} {ts : Int64} (h : Passed before last) (p : Packet)
    (next : nextStamp last stamp = .ok ts) :
    Passed (before ++ [.receive (.packet p), .writePacket (p.stamped stream ts) (.ok ())])
      (some ts) := by
  intro q hq
  rw [List.filterMap_append] at hq
  rcases List.mem_append.mp hq with hold | hnew
  · obtain ⟨hsame, t, rfl, hle⟩ := h q hold
    exact ⟨hsame, ts, rfl, Int64.le_of_lt (Int64.lt_of_le_of_lt hle (lt_of_nextStamp next))⟩
  · obtain rfl := List.mem_singleton.mp hnew
    exact ⟨rfl, ts, rfl, Int64.le_refl ts⟩

/-- Calls by which nothing is taken leave what has passed as it was. -/
theorem Passed.append {last : Option Int64} (h : Passed before last)
    (untaken : more.filterMap Call.taken? = []) : Passed (before ++ more) last := by
  intro q hq
  rw [List.filterMap_append, untaken, List.append_nil] at hq
  exact h q hq

/-- The loop hands packets on ahead of all that were taken, and the last stamp stays the greatest.
The induction is on the loop. -/
theorem Pulled.ahead (pulled : Pulled stream stamp e o calls r e' o')
    (h : Passed before o.lastDts) : Ahead before calls ∧ Passed (before ++ calls) o'.lastDts := by
  induction pulled generalizing before with
  | @taken e e' e'' o o'' p ts c calls r received next written rest ih =>
    obtain ⟨hahead, hpassed⟩ := ih (h.taken p next)
    refine ⟨(h.ahead p next _).append hahead, ?_⟩
    rw [List.append_assoc] at hpassed
    exact hpassed
  | @refused e e' e'' o o'' p ts f c calls r received next written rest ih =>
    have hrefused : Passed (before ++ [.receive (.packet p),
        .writePacket (p.stamped stream ts) (.error f)]) o.lastDts := h.append rfl
    obtain ⟨hahead, hpassed⟩ := ih hrefused
    refine ⟨(h.ahead p next _).append hahead, ?_⟩
    rw [List.append_assoc] at hpassed
    exact hpassed
  | overflowed received next => exact ⟨.of_unhanded rfl, h.append rfl⟩
  | stopped received ends => exact ⟨.of_unhanded rfl, h.append rfl⟩

/-- A cycle hands packets on ahead of all that were taken. -/
theorem Cycled.ahead {d : PacketDrain} {timeBase : Rational} {output : OutputStream} {pts : Int64}
    {c : κ} {drained : Drained ε κ} (h : Cycled d e timeBase output pts c calls drained)
    (passed : Passed before d.lastDts) :
    Ahead before calls ∧ Passed (before ++ calls) drained.drain.lastDts := by
  cases h with
  | terminated _ => exact ⟨.of_unhanded rfl, passed.append rfl⟩
  | overflowed _ pulled => exact pulled.ahead passed
  | settled _ pulled => exact pulled.ahead passed

end

end Framecast

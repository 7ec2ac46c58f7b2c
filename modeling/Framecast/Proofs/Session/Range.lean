import Framecast.Proofs.Capture.Rows
import Framecast.Proofs.Drain.Delivery
import Framecast.Proofs.Session.Custody
import Framecast.Proofs.Session.Punctual
import Framecast.Proofs.Session.Sample

/-!
# The range of timestamps

Every timestamp has a tick after it but the last one. A packet that is received finds no stamp,
therefore, exactly if the last packet that was taken has the last tick (`Overruns`); that is wanted
by any time that is too late, since times are cut off there. Nothing else overflows in a drain
(`Pulled.overruns_iff`), nor in a session, until the frames themselves have used up the ticks
(`Session.submitAll_overflow_iff`).

Stamps run ahead of what is wanted by one tick at most for each packet that is received (`Below`).
So there is always one left where the time of the last frame leaves as many ticks as there are
packets (`Pulled.completes`, `Session.submitAll_completes`).
-/

namespace Framecast

open Journaled Rational

/-! ## The last tick -/

/-- There is no next stamp exactly if the last one is the last tick. -/
theorem nextStamp_error_iff {last : Option Int64} {wanted : Int64} {x : Overflow} :
    nextStamp last wanted = .error x ↔ x = .addition ∧ last = some Int64.maxValue := by
  constructor
  · intro h
    exact ⟨nextStamp_error h, last_of_nextStamp_error h⟩
  · rintro ⟨rfl, rfl⟩
    have hle : wanted ≤ Int64.maxValue := by
      rw [Int64.le_iff_toInt_le, Int64.toInt_maxValue]
      have hlt := wanted.toInt_lt
      omega
    unfold nextStamp tickAfter
    dsimp only
    rw [if_pos hle, if_pos rfl]

/-- There is a next stamp only where the last one is not the last tick. -/
theorem last_ne_of_nextStamp {last : Option Int64} {wanted ts : Int64}
    (h : nextStamp last wanted = .ok ts) : last ≠ some Int64.maxValue := by
  intro hlast
  have herror : nextStamp last wanted = .error .addition := nextStamp_error_iff.mpr ⟨rfl, hlast⟩
  rw [h] at herror
  cases herror

variable {before calls more : List Call}

/-- In these calls, after those before them, a packet is received when the last one that was taken
has the last tick. -/
def Overruns (before calls : List Call) : Prop :=
  ∃ earlier p later, calls = earlier ++ .receive (.packet p) :: later ∧
    lastDecoded (before ++ earlier) = some Int64.maxValue

/-- Where no packet is received, none is received too late. -/
theorem not_overruns (unreceived : calls.filterMap Call.received? = []) :
    ¬ Overruns before calls := by
  rintro ⟨earlier, p, later, rfl, -⟩
  rw [List.filterMap_append] at unreceived
  cases (List.append_eq_nil_iff.mp unreceived).2

/-- The first packet is received too late if the last tick was taken before. -/
theorem overruns_received {p : Packet} :
    Overruns before [.receive (.packet p)] ↔ lastDecoded before = some Int64.maxValue := by
  constructor
  · rintro ⟨earlier, q, later, h, hlast⟩
    cases earlier with
    | nil =>
      rw [List.append_nil] at hlast
      exact hlast
    | cons c earlier => simp at h
  · intro hlast
    refine ⟨[], p, [], rfl, ?_⟩
    rw [List.append_nil]
    exact hlast

/-- A packet is received too late in some calls and then others if it is in the ones or in the
others. -/
theorem overruns_append :
    Overruns before (calls ++ more) ↔ Overruns before calls ∨ Overruns (before ++ calls) more := by
  constructor
  · rintro ⟨earlier, p, later, h, hlast⟩
    rcases List.append_eq_append_iff.mp h with ⟨mid, rfl, hmore⟩ | ⟨mid, rfl, hmid⟩
    · right
      refine ⟨mid, p, later, hmore, ?_⟩
      rw [List.append_assoc]
      exact hlast
    · cases mid with
      | nil =>
        right
        refine ⟨[], p, later, hmid.symm, ?_⟩
        rw [List.append_nil, List.append_nil]
        exact hlast
      | cons c mid =>
        obtain ⟨rfl, -⟩ := List.cons.inj hmid
        exact .inl ⟨earlier, p, mid, rfl, hlast⟩
  · rintro (⟨earlier, p, later, rfl, hlast⟩ | ⟨earlier, p, later, rfl, hlast⟩)
    · exact ⟨earlier, p, later ++ more, by simp, hlast⟩
    · refine ⟨calls ++ earlier, p, later, by simp, ?_⟩
      rw [← List.append_assoc]
      exact hlast

/-- Calls that receive none may come before. -/
theorem overruns_after (unreceived : calls.filterMap Call.received? = []) :
    Overruns before (calls ++ more) ↔ Overruns (before ++ calls) more := by
  rw [overruns_append, or_iff_right (not_overruns unreceived)]

/-- A packet that is stamped was not received too late, and may pass before. -/
theorem overruns_passage (w : Passage) (stream : Nat) {wanted ts : Int64}
    (next : nextStamp (lastDecoded before) wanted = .ok ts) :
    Overruns before (w.calls stream ++ more) ↔ Overruns (before ++ w.calls stream) more := by
  have hpasses : ¬ Overruns before (w.calls stream) := by
    have hsplit : w.calls stream = [.receive (.packet w.packet)] ++
        [.writePacket (w.handed stream) w.answer] := rfl
    rw [hsplit, overruns_append, overruns_received]
    exact not_or.mpr ⟨last_ne_of_nextStamp next, not_overruns rfl⟩
  rw [overruns_append, or_iff_right hpasses]

variable {ε κ : Type} [Encoder ε] [Container κ]

section

variable {stream : Nat} {stamp : Int64} {e e' : ε} {o o' : Outlet κ}
  {r : Except Overflow DrainOutcome}

/-- The loop that pulls packets overflows exactly if it receives one too late. The induction is on
the loop; a packet that is stamped was not too late. -/
theorem Pulled.overruns_iff (pulled : Pulled stream stamp e o calls r e' o')
    (h : o.lastDts = Framecast.lastDecoded before) :
    r = .error .addition ↔ Overruns before calls := by
  induction pulled generalizing before with
  | @taken e e₁ e₂ o o₂ p ts c calls r received next written rest ih =>
    have htaken := lastDecoded_taken before ⟨p, ts, .ok ()⟩ stream rfl
    rw [h] at next
    rw [ih htaken.symm]
    exact (overruns_passage ⟨p, ts, .ok ()⟩ stream next).symm
  | @refused e e₁ e₂ o o₂ p ts f c calls r received next written rest ih =>
    have hrefused := lastDecoded_refused before ⟨p, ts, .error f⟩ stream rfl
    rw [ih (h.trans hrefused.symm)]
    rw [h] at next
    exact (overruns_passage ⟨p, ts, .error f⟩ stream next).symm
  | overflowed received next =>
    obtain ⟨rfl, hlast⟩ := nextStamp_error_iff.mp next
    rw [overruns_received, ← h]
    exact iff_of_true rfl hlast
  | @stopped e e₁ o a outcome received ends =>
    refine iff_of_false nofun (not_overruns ?_)
    cases a with
    | packet p => cases ends
    | _ => rfl

variable {d : PacketDrain} {timeBase : Rational} {output : OutputStream} {pts : Int64} {c : κ}
  {drained : Drained ε κ}

/-- A cycle overflows exactly if it receives a packet too late. -/
theorem Cycled.overruns_iff (h : Cycled d e timeBase output pts c calls drained)
    (last : d.lastDts = lastDecoded before) :
    drained.answer = .error .addition ↔ Overruns before calls := by
  cases h with
  | terminated _ => exact iff_of_false nofun (not_overruns rfl)
  | @overflowed calls x _ _ _ pulled =>
    rw [← pulled.overruns_iff last]
    exact ⟨fun h => congrArg _ (Except.error.inj h), fun h => congrArg _ (Except.error.inj h)⟩
  | settled _ pulled =>
    rw [← pulled.overruns_iff last]
    exact iff_of_false nofun nofun

/-- A drain remembers the last packet that was taken, in a cycle and before it. -/
theorem Cycled.lastDecoded (h : Cycled d e timeBase output pts c calls drained)
    (last : d.lastDts = lastDecoded before) :
    drained.drain.lastDts = Framecast.lastDecoded (before ++ calls) := by
  cases h with
  | terminated _ =>
    rw [List.append_nil]
    exact last
  | overflowed _ pulled => exact pulled.lastDecoded last
  | settled _ pulled => exact pulled.lastDecoded last

end

namespace Session

variable {s s' : Session ε κ} {f : CapturedFrame} {answer : Answer}

/-- The session judges the frame usable, and has no timestamp left for it. -/
def Unstamped (s : Session ε κ) (f : CapturedFrame) : Prop :=
  f.Usable ∧ s.drain.isTerminal = false ∧ s.lastPts = some Int64.maxValue

omit [Encoder ε] [Container κ] in
/-- A frame that the session accepts has a timestamp. -/
theorem Accepts.stamped {pts : Int64} (h : s.Accepts f pts) : ¬ s.Unstamped f :=
  fun hlast => last_ne_of_nextStamp h.stamp hlast.2.2

omit [Encoder ε] [Container κ] in
/-- A frame is refused with an overflow of a timestamp exactly if there is none left for it. -/
theorem Refusal.overflow_iff (h : s.Refusal f answer) :
    answer = .error .addition ↔ s.Unstamped f := by
  cases h with
  | rowOverflow row =>
    obtain ⟨rfl, hwide⟩ := CapturedFrame.isValid_error.mp row
    exact iff_of_false nofun fun h => hwide.unusable h.1
  | invalid invalid =>
    refine iff_of_false nofun fun h => ?_
    rw [CapturedFrame.isValid_true.mpr h.1] at invalid
    cases invalid
  | terminated _ terminal =>
    refine iff_of_false nofun fun h => ?_
    rw [h.2.1] at terminal
    cases terminal
  | stampOverflow valid live stamp =>
    obtain ⟨rfl, hlast⟩ := nextStamp_error_iff.mp stamp
    exact iff_of_true rfl ⟨CapturedFrame.isValid_true.mp valid, live, hlast⟩
  | flushed _ _ stamp _ => exact iff_of_false nofun fun h => last_ne_of_nextStamp stamp h.2.2
  | resized _ _ stamp _ _ => exact iff_of_false nofun fun h => last_ne_of_nextStamp stamp h.2.2
  | reformatted _ _ stamp _ _ _ =>
    exact iff_of_false nofun fun h => last_ne_of_nextStamp stamp h.2.2

/-- A submission overflows a timestamp exactly if it receives a packet too late, or there is none
left for the frame. -/
theorem Submitted.overflow_iff (h : s.Submitted f calls answer s')
    (last : s.drain.lastDts = lastDecoded before) :
    answer = .error .addition ↔ Overruns before calls ∨ s.Unstamped f := by
  cases h with
  | refused refusal => rw [refusal.overflow_iff, or_iff_right (not_overruns rfl)]
  | unsent accepts _ =>
    exact iff_of_false nofun (not_or.mpr ⟨not_overruns rfl, accepts.stamped⟩)
  | @drained pts e cycle d accepts _ cycled =>
    -- Nothing is taken by sending the frame.
    have hsent : s.drain.lastDts =
        lastDecoded (before ++ [.sendFrame (surface f pts) (.ok ())]) :=
      last.trans (lastDecoded_append rfl before).symm
    rw [or_iff_left accepts.stamped, cycled.overruns_iff hsent]
    have hframe : ([Call.sendFrame (surface f pts) (.ok ())].filterMap Call.received?) = [] := rfl
    exact (overruns_after hframe).symm

/-- A session remembers the last packet that was taken, in a submission and before it. -/
theorem Submitted.lastDecoded (h : s.Submitted f calls answer s')
    (last : s.drain.lastDts = lastDecoded before) :
    s'.drain.lastDts = Framecast.lastDecoded (before ++ calls) := by
  cases h with
  | refused _ =>
    rw [List.append_nil]
    exact last
  | unsent _ _ => exact last.trans (lastDecoded_append rfl before).symm
  | @drained pts e cycle d _ _ cycled =>
    have hsent : s.drain.lastDts =
        Framecast.lastDecoded (before ++ [.sendFrame (surface f pts) (.ok ())]) :=
      last.trans (lastDecoded_append rfl before).symm
    have hcycle := cycled.lastDecoded hsent
    rw [List.append_assoc] at hcycle
    exact hcycle

/-- Submitting frames makes the calls for the first one, and then for the others. -/
theorem calls_submitAll_cons (s : Session ε κ) (f : CapturedFrame) (fs : List CapturedFrame) :
    (s.submitAll (f :: fs)).calls =
      (s.submit f).calls ++ ((s.submit f).value.2.submitAll fs).calls := by
  simp [submitAll]

/-- A run overflows a timestamp exactly if it receives a packet too late, or there is none left for
one of the frames. The induction is on the frames. -/
theorem submitAll_overflow_iff (s : Session ε κ) (fs : List CapturedFrame)
    (last : s.drain.lastDts = lastDecoded before) :
    (.error .addition ∈ (s.submitAll fs).value.1 ↔
      Overruns before (s.submitAll fs).calls ∨ ∃ x ∈ s.submissions fs, x.1.Unstamped x.2) ∧
    (s.submitAll fs).value.2.drain.lastDts = lastDecoded (before ++ (s.submitAll fs).calls) := by
  induction fs generalizing s before with
  | nil =>
    refine ⟨iff_of_false List.not_mem_nil ?_, ?_⟩
    · rintro (hover | ⟨x, hx, -⟩)
      · exact not_overruns rfl hover
      · exact absurd hx List.not_mem_nil
    · show _ = lastDecoded (before ++ [])
      rw [List.append_nil]
      exact last
  | cons f fs ih =>
    have hsubmitted := s.submit_submitted f
    obtain ⟨hrest, hlast⟩ := ih _ (hsubmitted.lastDecoded last)
    have hcalls := s.calls_submitAll_cons f fs
    have hanswers : (s.submitAll (f :: fs)).value.1 =
        (s.submit f).value.1 :: ((s.submit f).value.2.submitAll fs).value.1 := rfl
    constructor
    · rw [hanswers, hcalls, List.mem_cons, hrest, overruns_append, submissions,
        List.exists_mem_cons_iff, eq_comm, hsubmitted.overflow_iff last]
      exact or_or_or_comm
    · rw [hcalls, ← List.append_assoc]
      exact hlast

/-- Flushing overflows exactly if it receives a packet too late. -/
theorem FlushedBy.overruns_iff {r : Except Overflow (Option SessionError)}
    (h : s.FlushedBy calls r s') (last : s.drain.lastDts = lastDecoded before) :
    r = .error .addition ↔ Overruns before calls := by
  cases h with
  | skipped _ => exact iff_of_false nofun (not_overruns rfl)
  | unsent _ _ _ => exact iff_of_false nofun (not_overruns rfl)
  | @drained first cycle s'' d live ends cycled =>
    have hflush : flushError? d.answer = .error .addition ↔ d.answer = .error .addition := by
      rcases d.answer with x | e | report <;> simp [flushError?]
    rw [hflush]
    cases ends with
    | already _ => exact cycled.overruns_iff last
    | @signalled e _ _ =>
      have hended : s.drain.lastDts = lastDecoded (before ++ [.sendEnd (.ok ())]) :=
        last.trans (lastDecoded_append rfl before).symm
      rw [cycled.overruns_iff hended, overruns_after rfl]

/-- Finishing overflows exactly if it receives a packet too late. -/
theorem FinishedBy.overruns_iff {duration : Duration} {finished : Finished κ}
    (h : s.FinishedBy duration calls finished) (last : s.drain.lastDts = lastDecoded before) :
    finished.result = .error .addition ↔ Overruns before calls := by
  cases h with
  | @overflowed calls x s' flushed =>
    obtain rfl := flushed.overflow_eq
    have hflush := (flushed.overruns_iff last).mp rfl
    rw [List.append_assoc, overruns_append]
    exact iff_of_true rfl (.inl hflush)
  | completed flushed _ =>
    have hflush := mt (flushed.overruns_iff last).mpr nofun
    rw [overruns_append, or_iff_right hflush]
    exact iff_of_false nofun (not_overruns rfl)

end Session

/-! ## Room for every packet -/

/-- The last stamp, after so many, is less than a bound counted one tick later for each. -/
def Below (bound : Int) (count : Nat) (last : Option Int64) : Prop :=
  ∀ t, last = some t → t.toInt < bound + count

variable {bound : Int} {n m : Nat} {last : Option Int64}

/-- What is below a bound after some stamps is so after more. -/
theorem Below.mono (h : Below bound n last) (le : n ≤ m) : Below bound m last := by
  intro t ht
  have hlt := h t ht
  omega

/-- The next stamp is below the bound, counted one tick later for itself, if what is wanted does not
pass it. -/
theorem Below.next (h : Below bound n last) {wanted ts : Int64} (within : wanted.toInt ≤ bound)
    (next : nextStamp last wanted = .ok ts) : Below bound (n + 1) (some ts) := by
  rintro _ ⟨⟩
  have hts := toInt_nextStamp next
  cases last with
  | none =>
    have hfirst : ts.toInt = wanted.toInt := hts
    omega
  | some t =>
    have hlt := h t rfl
    have hlater : ts.toInt = max wanted.toInt (t.toInt + 1) := hts
    omega

/-- While there is room, the last tick is not reached. -/
theorem Below.ne_last (h : Below bound n last) (room : bound + n < 2 ^ 63) :
    last ≠ some Int64.maxValue := by
  intro hlast
  have hlt := h _ hlast
  rw [Int64.toInt_maxValue] at hlt
  omega

section

variable {stream : Nat} {stamp : Int64} {e e' : ε} {o o' : Outlet κ}
  {r : Except Overflow DrainOutcome}

/-- While there is room for a tick for each packet, the loop that pulls them does not overflow. The
induction is on the loop; each packet received takes a tick of the room. -/
theorem Pulled.completes (pulled : Pulled stream stamp e o calls r e' o')
    (below : Below bound n o.lastDts) (within : stamp.toInt ≤ bound)
    (room : bound + (n + (calls.filterMap Call.received?).length) ≤ 2 ^ 63) :
    r ≠ .error .addition ∧
      Below bound (n + (calls.filterMap Call.received?).length) o'.lastDts := by
  induction pulled generalizing n with
  | @taken e e₁ e₂ o o₂ p ts c calls r received next written rest ih =>
    have hcount : ((Call.receive (.packet p) :: .writePacket (p.stamped stream ts) (.ok ()) ::
        calls).filterMap Call.received?).length = (calls.filterMap Call.received?).length + 1 := rfl
    rw [hcount] at room ⊢
    have htaken : Below bound (n + 1) (o.taking c ts p.data.size).lastDts := below.next within next
    obtain ⟨hcompletes, hbelow⟩ := ih htaken (by push_cast at room ⊢; omega)
    exact ⟨hcompletes, hbelow.mono (by omega)⟩
  | @refused e e₁ e₂ o o₂ p ts f c calls r received next written rest ih =>
    have hcount : ((Call.receive (.packet p) :: .writePacket (p.stamped stream ts) (.error f) ::
        calls).filterMap Call.received?).length = (calls.filterMap Call.received?).length + 1 := rfl
    rw [hcount] at room ⊢
    obtain ⟨hcompletes, hbelow⟩ := ih below (by push_cast at room ⊢; omega)
    exact ⟨hcompletes, hbelow.mono (by omega)⟩
  | @overflowed e e₁ o p x received next =>
    have hcount : ([Call.receive (.packet p)].filterMap Call.received?).length = 1 := rfl
    rw [hcount] at room
    have hlast := (nextStamp_error_iff.mp next).2
    exact absurd hlast (below.ne_last (by push_cast at room; omega))
  | stopped received ends => exact ⟨nofun, below.mono (by omega)⟩

variable {d : PacketDrain} {timeBase : Rational} {output : OutputStream} {pts : Int64} {c : κ}
  {drained : Drained ε κ}

/-- While there is room for a tick for each packet, a cycle does not overflow. -/
theorem Cycled.completes (h : Cycled d e timeBase output pts c calls drained)
    (below : Below bound n d.lastDts) (within : (cycleStamp c output timeBase pts).toInt ≤ bound)
    (room : bound + (n + (calls.filterMap Call.received?).length) ≤ 2 ^ 63) :
    drained.answer ≠ .error .addition ∧
      Below bound (n + (calls.filterMap Call.received?).length) drained.drain.lastDts := by
  cases h with
  | terminated _ => exact ⟨nofun, below.mono (by omega)⟩
  | @overflowed calls x e' o _ pulled =>
    obtain ⟨hcompletes, -⟩ := pulled.completes below within room
    obtain rfl := pulled.overflow_eq x rfl
    exact absurd rfl hcompletes
  | settled _ pulled => exact ⟨nofun, (pulled.completes below within room).2⟩

end

namespace Session

variable {s s' : Session ε κ} {f : CapturedFrame} {answer : Answer} {limit : Int} {base : Rational}

/-- A session that counts microseconds, and has timestamps below a limit after so many frames. -/
structure Paced (limit : Int) (count : Nat) (s : Session ε κ) : Prop where
  /-- The encoder counts microseconds. -/
  microseconds : s.bound.config.timeBase = .microsecond
  /-- The last timestamp is less than the limit counted one tick later for each frame. -/
  last : Below limit count s.lastPts

omit [Encoder ε] [Container κ] in
/-- A session that is paced is so after more frames. -/
theorem Paced.mono (h : s.Paced limit n) (le : n ≤ m) : s.Paced limit m :=
  ⟨h.microseconds, h.last.mono le⟩

omit [Encoder ε] [Container κ] in
/-- The next timestamp of a paced session, for a frame that was not captured after the limit. -/
theorem Paced.next (h : s.Paced limit n)
    (within : (microsecond.ticks f.timestamp.sinceStart).toInt ≤ limit) {pts : Int64}
    (stamp : nextStamp s.lastPts (s.ticks f) = .ok pts) : Below limit (n + 1) (some pts) := by
  unfold ticks at stamp
  rw [h.microseconds] at stamp
  exact h.last.next within stamp

/-- Submitting a frame that was not captured after the limit leaves a session paced. -/
theorem Paced.submitted (h : s.Paced limit n)
    (within : (microsecond.ticks f.timestamp.sinceStart).toInt ≤ limit)
    (submitted : s.Submitted f calls answer s') :
    s'.Paced limit (n + (calls.filterMap Call.sent?).length) := by
  obtain ⟨hconfig, ⟨hnone, hlast⟩ | ⟨pts, hstamp, hsent, hlast⟩⟩ := submitted.sent_cases
  · constructor
    · rw [hconfig]
      exact h.microseconds
    · rw [hlast, hnone]
      exact h.last
  · constructor
    · rw [hconfig]
      exact h.microseconds
    · rw [hlast, hsent]
      exact h.next within hstamp

/-- Along a run of such frames a session stays paced. The induction is on the frames. -/
theorem Paced.submitAll {fs : List CapturedFrame} (h : s.Paced limit n)
    (within : ∀ f ∈ fs, (microsecond.ticks f.timestamp.sinceStart).toInt ≤ limit) :
    (∀ x ∈ s.submissions fs,
      x.1.Paced limit (n + ((s.submitAll fs).calls.filterMap Call.sent?).length)) ∧
    (s.submitAll fs).value.2.Paced limit
      (n + ((s.submitAll fs).calls.filterMap Call.sent?).length) := by
  induction fs generalizing s n with
  | nil => exact ⟨fun x hx => absurd hx List.not_mem_nil, h⟩
  | cons f fs ih =>
    obtain ⟨hfirst, hothers⟩ := List.forall_mem_cons.mp within
    obtain ⟨hrest, hend⟩ := ih (h.submitted hfirst (s.submit_submitted f)) hothers
    rw [calls_submitAll_cons, List.filterMap_append, List.length_append, ← Nat.add_assoc]
    exact ⟨List.forall_mem_cons.mpr ⟨h.mono (by omega), hrest⟩, hend⟩

/-- The frames of a run are those that are submitted. -/
theorem mem_of_submissions {fs : List CapturedFrame} {x : Session ε κ × CapturedFrame}
    (h : x ∈ s.submissions fs) : x.2 ∈ fs := by
  induction fs generalizing s with
  | nil => exact absurd h List.not_mem_nil
  | cons f fs ih =>
    rcases List.mem_cons.mp h with rfl | hrest
    · exact List.mem_cons_self
    · exact List.mem_cons_of_mem f (ih hrest)

/-- While there is room for a tick for each packet, a submission does not overflow a timestamp. -/
theorem Submitted.completes (h : s.Submitted f calls answer s')
    (below : Below bound n s.drain.lastDts)
    (within : ∀ pts, s.Accepts f pts →
      (cycleStamp s.container s.stream s.bound.config.timeBase pts).toInt ≤ bound)
    (stamped : ¬ s.Unstamped f)
    (room : bound + (n + (calls.filterMap Call.received?).length) ≤ 2 ^ 63) :
    answer ≠ .error .addition ∧
      Below bound (n + (calls.filterMap Call.received?).length) s'.drain.lastDts := by
  cases h with
  | refused refusal => exact ⟨mt refusal.overflow_iff.mp stamped, below.mono (by omega)⟩
  | unsent _ _ => exact ⟨nofun, below.mono (by omega)⟩
  | @drained pts e cycle d accepts _ cycled =>
    exact cycled.completes below (within pts accepts) room

/-- While there is room for a tick for each packet, a run does not overflow a timestamp. The
induction is on the frames. -/
theorem submitAll_completes {fs : List CapturedFrame} (below : Below bound n s.drain.lastDts)
    (within : ∀ x ∈ s.submissions fs, ∀ pts, x.1.Accepts x.2 pts →
      (cycleStamp x.1.container x.1.stream x.1.bound.config.timeBase pts).toInt ≤ bound)
    (stamped : ∀ x ∈ s.submissions fs, ¬ x.1.Unstamped x.2)
    (room : bound + (n + ((s.submitAll fs).calls.filterMap Call.received?).length) ≤ 2 ^ 63) :
    .error .addition ∉ (s.submitAll fs).value.1 ∧
      Below bound (n + ((s.submitAll fs).calls.filterMap Call.received?).length)
        (s.submitAll fs).value.2.drain.lastDts := by
  induction fs generalizing s n with
  | nil => exact ⟨List.not_mem_nil, below⟩
  | cons f fs ih =>
    obtain ⟨hwithin, hwithins⟩ := List.forall_mem_cons.mp within
    obtain ⟨hstamped, hstampeds⟩ := List.forall_mem_cons.mp stamped
    rw [calls_submitAll_cons, List.filterMap_append, List.length_append] at room ⊢
    push_cast at room
    obtain ⟨hanswer, hnext⟩ := (s.submit_submitted f).completes below hwithin hstamped (by omega)
    obtain ⟨hanswers, hend⟩ := ih hnext hwithins hstampeds (by push_cast; omega)
    rw [← Nat.add_assoc]
    exact ⟨List.not_mem_cons_of_ne_of_not_mem hanswer.symm hanswers, hend⟩

/-- While there is room for a tick for each packet, flushing does not overflow. -/
theorem FlushedBy.completes {r : Except Overflow (Option SessionError)}
    (h : s.FlushedBy calls r s') (below : Below bound n s.drain.lastDts)
    (within : (cycleStamp s.container s.stream s.bound.config.timeBase
      (s.lastPts.getD 0)).toInt ≤ bound)
    (room : bound + (n + (calls.filterMap Call.received?).length) ≤ 2 ^ 63) :
    r ≠ .error .addition := by
  cases h with
  | skipped _ => exact nofun
  | unsent _ _ _ => exact nofun
  | @drained first cycle s'' d live ends cycled =>
    have hanswer : d.answer ≠ .error .addition := by
      cases ends with
      | already _ => exact (cycled.completes below within room).1
      | signalled _ _ => exact (cycled.completes below within room).1
    rcases ha : d.answer with x | e | report
    · rw [ha] at hanswer
      exact fun hr => hanswer (congrArg _ (Except.error.inj hr))
    · exact nofun
    · exact nofun

/-- While there is room for a tick for each packet, finishing does not overflow. -/
theorem FinishedBy.completes {duration : Duration} {finished : Finished κ}
    (h : s.FinishedBy duration calls finished) (below : Below bound n s.drain.lastDts)
    (within : (cycleStamp s.container s.stream s.bound.config.timeBase
      (s.lastPts.getD 0)).toInt ≤ bound)
    (room : bound + (n + (calls.filterMap Call.received?).length) ≤ 2 ^ 63) :
    finished.result ≠ .error .addition := by
  cases h with
  | @overflowed calls x s' flushed =>
    rw [List.append_assoc, List.filterMap_append, List.length_append] at room
    push_cast at room
    have hflush := flushed.completes below within (by omega)
    obtain rfl := flushed.overflow_eq
    exact absurd rfl hflush
  | completed _ _ => exact nofun

omit [Encoder ε] in
/-- What a paced session wants for a timestamp up to `latest` does not pass the time of that. -/
theorem Paced.cycleStamp_le (h : s.Paced limit n) (positive : base.isPositive = true)
    (writes : s.outputTimeBase = base) {pts latest : Int64} (le : pts ≤ latest) :
    (cycleStamp s.container s.stream s.bound.config.timeBase pts).toInt ≤
      (rescale latest .microsecond base).toInt := by
  have hstamp : cycleStamp s.container s.stream s.bound.config.timeBase pts =
      rescale pts .microsecond base := by
    rw [← writes, h.microseconds]
    rfl
  rw [hstamp]
  exact Int64.le_iff_toInt_le.mp (rescale_mono rfl positive le)

/-- No timestamp of a paced session overflows, while frames are submitted and when it is finished,
if the times of the frames leave room for each frame sent, and the latest of them leaves room for
each packet received. -/
theorem Paced.completes {fs : List CapturedFrame} {now : Instant} {latest : Int64}
    (h : s.Paced (latest.toInt - ((s.submitAll fs).calls.filterMap Call.sent?).length) 0)
    (undrained : s.drain.lastDts = none) (positive : base.isPositive = true) (nonneg : 0 ≤ latest)
    (writes : ∀ x ∈ s.submissions fs, x.1.outputTimeBase = base)
    (writes' : (s.submitAll fs).value.2.outputTimeBase = base)
    (early : ∀ f ∈ fs, (microsecond.ticks f.timestamp.sinceStart).toInt ≤
      latest.toInt - ((s.submitAll fs).calls.filterMap Call.sent?).length)
    (room : (rescale latest .microsecond base).toInt + (((s.submitAll fs).calls ++
      ((s.submitAll fs).value.2.finish now).calls).filterMap Call.received?).length ≤ 2 ^ 63) :
    ¬ (.error .addition ∈ (s.submitAll fs).value.1 ∨
      ((s.submitAll fs).value.2.finish now).value.result = .error .addition) := by
  obtain ⟨hall, hlater⟩ := h.submitAll early
  rw [Nat.zero_add] at hall hlater
  generalize ((s.submitAll fs).calls.filterMap Call.sent?).length = sent at early hall hlater
  rw [List.filterMap_append, List.length_append] at room
  push_cast at room
  have hwanted : ∀ x ∈ s.submissions fs, ∀ pts, x.1.Accepts x.2 pts →
      (cycleStamp x.1.container x.1.stream x.1.bound.config.timeBase pts).toInt ≤
        (rescale latest .microsecond base).toInt := by
    intro x hx pts accepts
    have hlt := (hall x hx).next (early x.2 (mem_of_submissions hx)) accepts.stamp pts rfl
    have hle : pts ≤ latest := Int64.le_iff_toInt_le.mpr (by omega)
    exact (hall x hx).cycleStamp_le positive (writes x hx) hle
  have hstamped : ∀ x ∈ s.submissions fs, ¬ x.1.Unstamped x.2 := by
    intro x hx hunstamped
    have hroom : latest.toInt - sent + sent < 2 ^ 63 := by
      have hlt := latest.toInt_lt
      omega
    exact (hall x hx).last.ne_last hroom hunstamped.2.2
  have hfresh : Below (rescale latest .microsecond base).toInt 0 s.drain.lastDts := by
    rw [undrained]
    exact nofun
  obtain ⟨hanswers, hbelow⟩ := submitAll_completes hfresh hwanted hstamped (by push_cast; omega)
  rw [Nat.zero_add] at hbelow
  -- The flush wants the time of the last frame, or zero if there was none.
  have hlast : (s.submitAll fs).value.2.lastPts.getD 0 ≤ latest := by
    cases hpts : (s.submitAll fs).value.2.lastPts with
    | none => exact nonneg
    | some pts =>
      have hlt := hlater.last pts hpts
      rw [Option.getD_some, Int64.le_iff_toInt_le]
      omega
  have hflush := hlater.cycleStamp_le positive writes' hlast
  have hresult := FinishedBy.completes (finish_finishedBy _ now) hbelow hflush (by omega)
  exact not_or.mpr ⟨hanswers, hresult⟩

/-- While frames are submitted to a session and when it is finished, a timestamp overflows exactly
if a packet is received when the last one that was taken has the last tick, or a frame is submitted
when the last timestamp is the last tick. It takes `2^62` frames to get there, but packets may get
there with the first frame. They do not if the container writes in one positive base and there is
room in it: where every frame is captured earlier than `latest` by as many ticks as frames are sent,
and as many ticks of that base come after `latest` as packets are received. -/
theorem timestamps_in_range {b : SessionBuilder ε κ} {width height : UInt32} {format : SurfaceFormat}
    {start : Instant} (started : (b.start width height format start).value = .session s)
    (fs : List CapturedFrame) (now : Instant) :
    let ran := s.submitAll fs
    let ended := ran.value.2.finish now
    let calls := ran.calls ++ ended.calls
    let sent := (ran.calls.filterMap Call.sent?).length
    let received := (calls.filterMap Call.received?).length
    let Overflows := .error .addition ∈ ran.value.1 ∨ ended.value.result = .error .addition
    (Overflows ↔ Overruns [] calls ∨ ∃ x ∈ s.submissions fs, x.1.Unstamped x.2) ∧
    ((∃ x ∈ s.submissions fs, x.1.Unstamped x.2) → 2 ^ 62 ≤ sent) ∧
    ∀ (base : Rational) (latest : Int64), base.isPositive = true → 0 ≤ latest →
      (∀ x ∈ s.submissions fs, x.1.outputTimeBase = base) → ran.value.2.outputTimeBase = base →
      (∀ f ∈ fs, (microsecond.ticks f.timestamp.sinceStart).toInt + sent ≤ latest.toInt) →
      (rescale latest .microsecond base).toInt + received ≤ 2 ^ 63 → ¬ Overflows := by
  intro ran ended calls sent received Overflows
  have hfresh := SessionBuilder.fresh_of_start started
  have hlast : s.drain.lastDts = lastDecoded [] := by
    rw [hfresh.drain]
    rfl
  have hnone : ∀ limit, Below limit 0 s.lastPts := by
    intro limit t ht
    rw [hfresh.lastPts] at ht
    cases ht
  have hpaced : ∀ limit, s.Paced limit 0 :=
    fun limit => ⟨SessionBuilder.timeBase_of_start started, hnone limit⟩
  obtain ⟨hruns, hend⟩ := s.submitAll_overflow_iff fs hlast
  rw [List.nil_append] at hend
  have hended : ran.value.2.FinishedBy (now.since ran.value.2.started) ended.calls ended.value :=
    ran.value.2.finish_finishedBy now
  refine ⟨?_, ?_, ?_⟩
  · show .error .addition ∈ (s.submitAll fs).value.1 ∨ _ ↔ _
    rw [hruns, hended.overruns_iff hend, overruns_append, List.nil_append]
    exact or_right_comm
  · rintro ⟨x, hx, -, -, hmax⟩
    have hbounded : ∀ f ∈ fs, (microsecond.ticks f.timestamp.sinceStart).toInt ≤ 2 ^ 54 :=
      fun f _ => (ticks_microsecond_lt _).le
    -- A last frame time grows by a tick a frame at most beyond what was captured, so there must be
    -- very many frames for none to be left.
    have hx' := ((hpaced (2 ^ 54)).submitAll hbounded).1 x hx
    rw [Nat.zero_add] at hx'
    by_contra hfew
    have hroom : (2 ^ 54 : Int) + sent < 2 ^ 63 := by omega
    exact hx'.last.ne_last hroom hmax
  · intro base latest positive nonneg writes writes' early room
    have hlimit : ∀ f ∈ fs,
        (microsecond.ticks f.timestamp.sinceStart).toInt ≤ latest.toInt - sent := by
      intro f hf
      have hearly := early f hf
      omega
    have hundrained : s.drain.lastDts = none := by rw [hfresh.drain]
    exact (hpaced _).completes hundrained positive nonneg writes writes' hlimit room

/-- After a frame whose time is cut off at the last tick, the packet of the flush overflows. After a
frame that was captured five milliseconds after the start there is room for it. -/
theorem timestamps_in_range_sample :
    let late := sampleSession.submitAll [SessionBuilder.lateFrame]
    let early := sampleSession.submitAll [sampleFrame (.ofNanos 5000000)]
    (late.value.2.finish ⟨0⟩).value.result = .error .addition ∧
      Overruns [] (late.calls ++ (late.value.2.finish ⟨0⟩).calls) ∧
      .error .addition ∉ early.value.1 ∧
      (early.value.2.finish ⟨0⟩).value.result ≠ .error .addition := by
  intro late early
  have hoverflow : (late.value.2.finish ⟨0⟩).value.result = .error .addition := by cbv
  have hone : ¬ 2 ^ 62 ≤ (late.calls.filterMap Call.sent?).length := by cbv
  obtain ⟨hlate, hmany, -⟩ :=
    timestamps_in_range sampleBuilder_starts [SessionBuilder.lateFrame] ⟨0⟩
  obtain ⟨-, -, hroom⟩ :=
    timestamps_in_range sampleBuilder_starts [sampleFrame (.ofNanos 5000000)] ⟨0⟩
  have hbases : (sampleSession.submissions [sampleFrame (.ofNanos 5000000)]).map
      (·.1.outputTimeBase) = [.nanosecond] := by
    cbv
  have hwrites : ∀ base ∈ (sampleSession.submissions [sampleFrame (.ofNanos 5000000)]).map
      (·.1.outputTimeBase), base = .nanosecond := by
    rw [hbases]
    decide
  have hwrites' : early.value.2.outputTimeBase = .nanosecond := by cbv
  have hearly : ∀ f ∈ [sampleFrame (.ofNanos 5000000)],
      (microsecond.ticks f.timestamp.sinceStart).toInt +
        ((early.calls.filterMap Call.sent?).length : Int) ≤ (5001 : Int64).toInt := by
    have hsent : (early.calls.filterMap Call.sent?).length = 1 := by cbv
    rw [hsent]
    decide
  have hleaves : (rescale 5001 .microsecond .nanosecond).toInt +
      (((early.calls ++ (early.value.2.finish ⟨0⟩).calls).filterMap Call.received?).length : Int) ≤
        2 ^ 63 := by
    have hflushed : early.value.2.flush.value.1 = .ok none := by cbv
    have hsubmits : (early.calls.filterMap Call.received?).length = 1 := by cbv
    have hflushes : (early.value.2.flush.calls.filterMap Call.received?).length = 1 := by cbv
    have hends : (early.value.2.flush.value.2.endOutput.calls.filterMap
        Call.received?).length = 0 := by
      cbv
    have hreceived : ((early.calls ++ (early.value.2.finish ⟨0⟩).calls).filterMap
        Call.received?).length = 2 := by
      rw [finish_calls _ _ hflushed]
      simp only [List.filterMap_append, List.length_append, hsubmits, hflushes, hends]
      rfl
    rw [hreceived]
    decide
  have hfits := hroom .nanosecond 5001 rfl (by decide) (List.forall_mem_map.mp hwrites) hwrites'
    hearly hleaves
  rcases hlate.mp (.inr hoverflow) with hover | hunstamped
  · exact ⟨hoverflow, hover, not_or.mp hfits⟩
  · exact absurd (hmany hunstamped) hone

end Session

end Framecast

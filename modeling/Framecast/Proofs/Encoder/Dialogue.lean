import Framecast.Proofs.Drain.Pulled

/-!
# The dialogue with an encoder

An encoder is fed in turns. Once it has taken a frame it is asked for packets until it answers with
something else; only then may the next frame follow, or the end of input. After the end of input it
is only asked for packets, and after the end of the stream for nothing more.

The turns are those of a machine of four states (`Standing`), and a `Dialogue` is a run of it. What
a run of the machine looks like from outside is said by `Courteous`.
-/

namespace Framecast

/-- It is a question to the encoder. -/
def Call.asksEncoder : Call → Bool
  | .sendFrame _ _ => true
  | .sendEnd _ => true
  | .receive _ => true
  | _ => false

/-- What the encoder is asked by these calls. -/
def asked (calls : List Call) : List Call := calls.filter Call.asksEncoder

/-- What is asked by calls one after the other. -/
@[simp] theorem asked_append (calls more : List Call) :
    asked (calls ++ more) = asked calls ++ asked more :=
  List.filter_append ..

/-- Calls to others ask the encoder nothing. -/
theorem asked_eq_nil {calls : List Call} (h : ∀ c ∈ calls, c.asksEncoder = false) :
    asked calls = [] := by
  rw [asked, List.filter_eq_nil_iff]
  intro c hc
  simp [h c hc]

/-- Where a dialogue with an encoder stands. -/
inductive Standing
  /-- The next frame may be sent, or the end of input. -/
  | ready
  /-- A frame was taken, and its packets are to be received. -/
  | owed
  /-- The end of input was signalled. -/
  | closing
  /-- The encoder has reported end of stream. -/
  | closed
deriving DecidableEq

namespace Standing

/-- An answer that is no packet settles what was owed, or ends the dialogue. -/
def hear : Standing → DrainOutcome → Standing
  | _, .endOfStream => closed
  | owed, _ => ready
  | st, _ => st

/-- An answer of the encoder moves the dialogue on unless it is a packet. -/
def receive (st : Standing) (answer : Received) : Standing :=
  match answer.outcome? with
  | none => st
  | some outcome => st.hear outcome

/-- The question is asked in turn, and the dialogue stands there afterwards. -/
def next? : Standing → Call → Option Standing
  | ready, .sendFrame _ (.ok ()) => some owed
  | ready, .sendFrame _ (.error _) => some ready
  | ready, .sendEnd _ => some closing
  | owed, .receive answer => some (owed.receive answer)
  | closing, .receive answer => some (closing.receive answer)
  | _, _ => none

/-- Packets are to be received. -/
def listens : Standing → Bool
  | owed => true
  | closing => true
  | _ => false

/-- Where packets are to be received, the encoder may be asked for one. -/
theorem next?_receive {st : Standing} (listens : st.listens = true) (answer : Received) :
    st.next? (.receive answer) = some (st.receive answer) := by
  cases st <;> first | rfl | cases listens

/-- The questions are asked in turn, and the dialogue stands there afterwards. -/
def after? (st : Standing) (calls : List Call) : Option Standing := calls.foldlM next? st

/-- Questions are asked in turn if the first one is, and then the others. -/
theorem after?_cons {st st' : Standing} {c : Call} {calls : List Call} :
    st.after? (c :: calls) = some st' ↔
      ∃ there, st.next? c = some there ∧ there.after? calls = some st' := by
  unfold after?
  rw [List.foldlM_cons]
  exact Option.bind_eq_some_iff

/-- Questions are asked in turn if some of them are, and then the others. -/
theorem after?_append {st st' : Standing} {before after : List Call} :
    st.after? (before ++ after) = some st' ↔
      ∃ here, st.after? before = some here ∧ here.after? after = some st' := by
  unfold after?
  rw [List.foldlM_append]
  exact Option.bind_eq_some_iff

/-- Questions that are asked in turn are so at each of them and from there on. -/
theorem after?_split {st st' : Standing} {before after : List Call} {c : Call}
    (h : st.after? (before ++ c :: after) = some st') :
    ∃ here there, next? here c = some there ∧ there.after? after = some st' := by
  obtain ⟨here, -, h⟩ := after?_append.mp h
  obtain ⟨there, hnext, hrest⟩ := after?_cons.mp h
  exact ⟨here, there, hnext, hrest⟩

/-- After the end of the stream nothing is asked. -/
theorem after?_closed {st : Standing} {calls : List Call} (h : closed.after? calls = some st) :
    calls = [] := by
  cases calls with
  | nil => rfl
  | cons c calls => cases h

/-- After the end of input the encoder is only asked for packets. -/
theorem after?_closing {st : Standing} {calls : List Call} (h : closing.after? calls = some st) :
    ∀ c ∈ calls, ∃ answer, c = .receive answer := by
  induction calls with
  | nil => exact fun c hc => absurd hc List.not_mem_nil
  | cons c calls ih =>
    obtain ⟨there, hnext, hrest⟩ := after?_cons.mp h
    cases c with
    | receive answer =>
      obtain rfl := Option.some.inj hnext
      have hcalls : ∀ c ∈ calls, ∃ answer, c = .receive answer := by
        -- What comes next is the same, or nothing if the stream has ended.
        have hstand : closing.receive answer = closing ∨ closing.receive answer = closed := by
          unfold receive hear
          cases answer <;> simp [Received.outcome?]
        rcases hstand with hstand | hstand
        · rw [hstand] at hrest
          exact ih hrest
        · rw [hstand] at hrest
          rw [after?_closed hrest]
          exact fun c hc => absurd hc List.not_mem_nil
      exact List.forall_mem_cons.mpr ⟨⟨answer, rfl⟩, hcalls⟩
    | _ => cases hnext

/-- After a frame was taken the encoder is asked for packets until it answers with something
else. -/
theorem after?_owed {st : Standing} {calls : List Call} (h : owed.after? calls = some st)
    (settled : st ≠ owed) :
    ∃ (packets : List Packet) (answer : Received) (rest : List Call),
      calls = packets.map (fun p => .receive (.packet p)) ++ .receive answer :: rest ∧
        ∀ p, answer ≠ .packet p := by
  induction calls with
  | nil => exact absurd (Option.some.inj h).symm settled
  | cons c calls ih =>
    obtain ⟨there, hnext, hrest⟩ := after?_cons.mp h
    cases c with
    | receive answer =>
      obtain rfl := Option.some.inj hnext
      cases answer with
      | packet p =>
        obtain ⟨packets, answer, rest, rfl, hanswer⟩ := ih hrest
        exact ⟨p :: packets, answer, rest, rfl, hanswer⟩
      | again => exact ⟨[], .again, calls, rfl, by simp⟩
      | endOfStream => exact ⟨[], .endOfStream, calls, rfl, by simp⟩
      | failed f => exact ⟨[], .failed f, calls, rfl, by simp⟩
    | _ => cases hnext

end Standing

/-- By these calls a dialogue comes to stand there. -/
def Dialogue (st : Standing) (calls : List Call) (st' : Standing) : Prop :=
  st.after? (asked calls) = some st'

/-- The encoder is asked in turn by these calls. -/
structure Courteous (calls : List Call) : Prop where
  /-- Once it took a frame, it is asked for packets up to the first answer that is none. -/
  drained : ∀ {before after : List Call} {frame : SurfaceFrame},
    asked calls = before ++ .sendFrame frame (.ok ()) :: after →
      ∃ (packets : List Packet) (answer : Received) (rest : List Call),
        after = packets.map (fun p => .receive (.packet p)) ++ .receive answer :: rest ∧
          ∀ p, answer ≠ .packet p
  /-- Once the end of input was signalled, it is only asked for packets. -/
  ended : ∀ {before after : List Call} {answer : Except Fault Unit},
    asked calls = before ++ .sendEnd answer :: after → ∀ c ∈ after, ∃ answer, c = .receive answer
  /-- Once it has reported end of stream, it is asked nothing. -/
  silent : ∀ {before after : List Call},
    asked calls = before ++ .receive .endOfStream :: after → after = []

namespace Dialogue

variable {st st' st'' : Standing} {calls more : List Call}

/-- A dialogue goes on where it stands. -/
theorem append (h : Dialogue st calls st') (h' : Dialogue st' more st'') :
    Dialogue st (calls ++ more) st'' := by
  unfold Dialogue
  rw [asked_append]
  exact Standing.after?_append.mpr ⟨st', h, h'⟩

/-- Calls to others leave the dialogue where it stands. -/
theorem aside (h : ∀ c ∈ calls, c.asksEncoder = false) : Dialogue st calls st := by
  unfold Dialogue
  rw [asked_eq_nil h]
  rfl

/-- A question in turn moves the dialogue on. -/
theorem turn {c : Call} (asks : c.asksEncoder = true) (next : st.next? c = some st') :
    Dialogue st [c] st' := by
  have hasked : asked [c] = [c] := by simp [asked, asks]
  unfold Dialogue
  rw [hasked]
  exact Standing.after?_cons.mpr ⟨st', next, rfl⟩

/-- A packet that is received and written leaves the dialogue where it stands, since there may be
another. -/
theorem packet (listens : st.listens = true) (p q : Packet) (answer : Except Fault Unit) :
    Dialogue st [.receive (.packet p), .writePacket q answer] st :=
  (turn rfl (Standing.next?_receive listens (.packet p))).append
    (.aside (by simp [Call.asksEncoder]))

/-- In a dialogue that owes nothing at its end, the encoder is asked in turn. -/
theorem courteous (h : Dialogue .ready calls st) (settled : st ≠ .owed) : Courteous calls := by
  unfold Dialogue at h
  constructor
  · intro before after frame hsplit
    rw [hsplit] at h
    obtain ⟨here, there, hnext, hrest⟩ := Standing.after?_split h
    have hthere : there = .owed := by
      cases here <;> first | exact (Option.some.inj hnext).symm | cases hnext
    rw [hthere] at hrest
    exact Standing.after?_owed hrest settled
  · intro before after answer hsplit
    rw [hsplit] at h
    obtain ⟨here, there, hnext, hrest⟩ := Standing.after?_split h
    have hthere : there = .closing := by
      cases here <;> first | exact (Option.some.inj hnext).symm | cases hnext
    rw [hthere] at hrest
    exact Standing.after?_closing hrest
  · intro before after hsplit
    rw [hsplit] at h
    obtain ⟨here, there, hnext, hrest⟩ := Standing.after?_split h
    have hthere : there = .closed := by
      cases here <;> first | exact (Option.some.inj hnext).symm | cases hnext
    rw [hthere] at hrest
    exact Standing.after?_closed hrest

end Dialogue

/-! ## A drain cycle -/

variable {ε κ : Type} [Encoder ε] [Container κ]

/-- The loop that pulls packets asks for them until an answer is none, and the dialogue stands where
that answer leaves it. -/
theorem Pulled.dialogue {stream : Nat} {stamp : Int64} {e e' : ε} {o o' : Outlet κ}
    {calls : List Call} {r : Except Overflow DrainOutcome}
    (h : Pulled stream stamp e o calls r e' o') {st : Standing} (listens : st.listens = true) :
    ∀ outcome, r = .ok outcome → Dialogue st calls (st.hear outcome) := by
  induction h with
  | taken received next written rest ih =>
    intro outcome hr
    exact (Dialogue.packet listens _ _ _).append (ih outcome hr)
  | refused received next written rest ih =>
    intro outcome hr
    exact (Dialogue.packet listens _ _ _).append (ih outcome hr)
  | overflowed received next => simp
  | @stopped e e' o answer outcome received ends =>
    rintro _ ⟨⟩
    have hanswer : st.receive answer = st.hear outcome := by
      unfold Standing.receive
      rw [ends]
    rw [← hanswer]
    exact .turn rfl (Standing.next?_receive listens answer)

/-- A drain cycle of a live drain that does not overflow settles what was owed, or ends the
dialogue, and the drain is terminal in that case only. -/
theorem Cycled.dialogue {d : PacketDrain} {e : ε} {timeBase : Rational} {stream : OutputStream}
    {pts : Int64} {c : κ} {calls : List Call} {drained : Drained ε κ}
    (h : Cycled d e timeBase stream pts c calls drained) (live : d.isTerminal = false)
    (fits : ∀ x, drained.result ≠ .error x) {st : Standing} (listens : st.listens = true) :
    ∃ outcome, Dialogue st calls (st.hear outcome) ∧
      (drained.drain.isTerminal = true ↔ outcome = .endOfStream) := by
  cases h with
  | terminated terminal =>
    rw [live] at terminal
    cases terminal
  | @overflowed _ x => exact absurd rfl (fits x)
  | @settled _ outcome _ o _ pulled =>
    refine ⟨outcome, pulled.dialogue listens outcome rfl, ?_⟩
    by_cases ho : outcome = .endOfStream <;>
      simp [PacketDrain.settle, PacketDrain.isTerminal, ho]

end Framecast

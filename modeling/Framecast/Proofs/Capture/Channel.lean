import Framecast.Capture.Channel

/-!
# The frames that go through a channel

Grabbers send frames, clone their senders and drop them, in any number and at any time; a session
asks for frames, stops its source and drops it. What both sides did, in the order in which it took
effect, is a history, with the answers that they got. Asking for a frame takes effect when it is
answered, however long the session waits for that.

The frames that were accepted, those that were received, and who is still there are read off the
history alone. Each use of a channel conserves its frames: what was pending and what is accepted is
what is received and what is then pending (`Step.conserves`). So a channel is at all times as its
history says (`Kept`), and no frame is lost, doubled or overtaken, whichever end goes first
(`frames_in_order`).
-/

namespace Framecast

/-- Something done with a channel, and the answer. -/
inductive ChannelUse
  | sent (f : CapturedFrame) (answer : Except CaptureError Bool)
  | senderCloned
  | senderDropped
  | asked (answer : Polled)
  | sourceStopped
  | sourceDropped

namespace ChannelUse

/-- The frame that was sent and accepted. -/
def accepted? : ChannelUse → Option CapturedFrame
  | .sent f (.ok true) => some f
  | _ => none

/-- The frame that was received. -/
def received? : ChannelUse → Option CapturedFrame
  | .asked (.frame f) => some f
  | _ => none

/-- There is one more sender. -/
def addsSender : ChannelUse → Bool
  | .senderCloned => true
  | _ => false

/-- There is one sender less. -/
def dropsSender : ChannelUse → Bool
  | .senderDropped => true
  | _ => false

end ChannelUse

namespace FrameChannel

/-! ## Histories -/

/-- The frames whose senders were told that they are queued, in order. -/
def accepted (history : List ChannelUse) : List CapturedFrame :=
  history.filterMap ChannelUse.accepted?

/-- The frames that the source gave, in order. -/
def received (history : List ChannelUse) : List CapturedFrame :=
  history.filterMap ChannelUse.received?

/-- A use that is accepted adds its frame at the end. -/
theorem accepted_concat (history : List ChannelUse) (use : ChannelUse) :
    accepted (history ++ [use]) = accepted history ++ use.accepted?.toList := by
  cases h : use.accepted? <;> simp [accepted, h]

/-- So does one that receives a frame. -/
theorem received_concat (history : List ChannelUse) (use : ChannelUse) :
    received (history ++ [use]) = received history ++ use.received?.toList := by
  cases h : use.received? <;> simp [received, h]

/-- As many frames are outstanding as there is room for. -/
def Full (history : List ChannelUse) : Prop :=
  (accepted history).length = (received history).length + frameCapacity

/-- Whether a channel is full can be counted. -/
instance (history : List ChannelUse) : Decidable (Full history) :=
  inferInstanceAs (Decidable (_ = _))

/-- The first sender and all its clones are gone. -/
def SendersGone (history : List ChannelUse) : Prop :=
  history.countP ChannelUse.dropsSender = history.countP ChannelUse.addsSender + 1

/-- Whether all senders are gone can be counted. -/
instance (history : List ChannelUse) : Decidable (SendersGone history) :=
  inferInstanceAs (Decidable (_ = _))

/-! ## Runs -/

/-- One use of a channel. A sender is sent through, cloned or dropped while there is one; the source
is asked, stopped or dropped while it is there. -/
inductive Step : FrameChannel → ChannelUse → FrameChannel → Prop
  | send {c : FrameChannel} (f : CapturedFrame) (sending : 0 < c.senders) :
      Step c (.sent f (c.send f).1) (c.send f).2
  | clone {c : FrameChannel} (sending : 0 < c.senders) : Step c .senderCloned c.addSender
  | dropSender {c : FrameChannel} (sending : 0 < c.senders) : Step c .senderDropped c.dropSender
  | ask {c : FrameChannel} (timeout : Duration) (receiving : c.receiving = true) :
      Step c (.asked (FrameSource.nextFrame c timeout).value.1)
        (FrameSource.nextFrame c timeout).value.2
  | stop {c : FrameChannel} (receiving : c.receiving = true) :
      Step c .sourceStopped (FrameSource.stop c).2
  | dropSource {c : FrameChannel} (receiving : c.receiving = true) :
      Step c .sourceDropped c.dropReceiver

/-- Uses of a channel, one after the other. -/
inductive Run (c : FrameChannel) : List ChannelUse → FrameChannel → Prop
  /-- Nothing was done. -/
  | none : Run c [] c
  /-- Something more was done. -/
  | more {history : List ChannelUse} {use : ChannelUse} {c' c'' : FrameChannel}
      (run : Run c history c') (step : c'.Step use c'') : Run c (history ++ [use]) c''

/-! ## What one use does -/

variable {c c' : FrameChannel} {use : ChannelUse}

/-- A frame finds no receiver, or room in the queue, or none. -/
theorem send_cases (c : FrameChannel) (f : CapturedFrame) :
    (c.receiving = false ∧ c.send f = (.error .disconnected, c)) ∨
      (c.receiving = true ∧ c.pending.length < frameCapacity ∧
        c.send f = (.ok true, { c with pending := c.pending ++ [f] })) ∨
      (c.receiving = true ∧ frameCapacity ≤ c.pending.length ∧ c.send f = (.ok false, c)) := by
  unfold send
  cases hreceiving : c.receiving with
  | false => exact .inl ⟨rfl, rfl⟩
  | true =>
    by_cases hroom : c.pending.length < frameCapacity
    · exact .inr (.inl ⟨rfl, hroom, by simp [hroom]⟩)
    · exact .inr (.inr ⟨rfl, Nat.le_of_not_lt hroom, by simp [hroom]⟩)

/-- A source that is asked has been stopped, or gives the oldest frame that is pending, or has none
to give, for good or for now. -/
theorem nextFrame_cases (c : FrameChannel) :
    (c.stopped = true ∧ c.nextFrame.value = (.failed .stopped, c)) ∨
      c.stopped = false ∧
        ((∃ f fs, c.pending = f :: fs ∧
            c.nextFrame.value = (.frame f, { c with pending := fs })) ∨
          (c.pending = [] ∧ c.senders = 0 ∧ c.nextFrame.value = (.failed .disconnected, c)) ∨
          (c.pending = [] ∧ c.senders ≠ 0 ∧ c.nextFrame.value = (.nothing, c))) := by
  unfold nextFrame
  cases hstopped : c.stopped with
  | true => exact .inl ⟨rfl, rfl⟩
  | false =>
    refine .inr ⟨rfl, ?_⟩
    cases hpending : c.pending with
    | cons f fs => exact .inl ⟨f, fs, rfl, rfl⟩
    | nil =>
      by_cases hsenders : c.senders = 0
      · exact .inr (.inl ⟨rfl, hsenders, by simp [hsenders]⟩)
      · exact .inr (.inr ⟨rfl, hsenders, by simp [hsenders]⟩)

/-- Sending changes nothing but what is pending. -/
theorem send_ends (c : FrameChannel) (f : CapturedFrame) :
    (c.send f).2.senders = c.senders ∧ (c.send f).2.receiving = c.receiving ∧
      (c.send f).2.stopped = c.stopped := by
  rcases c.send_cases f with ⟨-, h⟩ | ⟨-, -, h⟩ | ⟨-, -, h⟩ <;> simp [h]

/-- Nor does asking. -/
theorem nextFrame_ends (c : FrameChannel) :
    c.nextFrame.value.2.senders = c.senders ∧ c.nextFrame.value.2.receiving = c.receiving ∧
      c.nextFrame.value.2.stopped = c.stopped := by
  rcases c.nextFrame_cases with ⟨-, h⟩ | ⟨-, ⟨f, fs, -, h⟩ | ⟨-, -, h⟩ | ⟨-, -, h⟩⟩ <;> simp [h]

/-- A frame that is accepted is the last one pending. -/
theorem pending_send (c : FrameChannel) (f : CapturedFrame) :
    (c.send f).2.pending =
      c.pending ++ (ChannelUse.sent f (c.send f).1).accepted?.toList := by
  rcases c.send_cases f with ⟨-, h⟩ | ⟨-, -, h⟩ | ⟨-, -, h⟩ <;> simp [h, ChannelUse.accepted?]

/-- A frame that is given was the first one pending. -/
theorem pending_nextFrame (c : FrameChannel) :
    c.pending =
      (ChannelUse.asked c.nextFrame.value.1).received?.toList ++ c.nextFrame.value.2.pending := by
  rcases c.nextFrame_cases with ⟨-, h⟩ | ⟨-, ⟨f, fs, hpending, h⟩ | ⟨-, -, h⟩ | ⟨-, -, h⟩⟩
  · simp [h, ChannelUse.received?]
  · simp [h, hpending, ChannelUse.received?]
  · simp [h, ChannelUse.received?]
  · simp [h, ChannelUse.received?]

/-- While the source is there, what was pending and what is accepted is what is received and what is
then pending. -/
theorem Step.conserves (h : c.Step use c') (there : c'.receiving = true) :
    c.receiving = true ∧
      c.pending ++ use.accepted?.toList = use.received?.toList ++ c'.pending := by
  cases h with
  | send f sending => exact ⟨(c.send_ends f).2.1.symm.trans there, (c.pending_send f).symm⟩
  | ask timeout receiving => exact ⟨receiving, (List.append_nil _).trans c.pending_nextFrame⟩
  | clone sending => exact ⟨there, List.append_nil _⟩
  | dropSender sending => exact ⟨there, List.append_nil _⟩
  | stop receiving => exact ⟨receiving, List.append_nil _⟩
  | dropSource receiving => cases there

/-- Without the source nothing is accepted, and nothing received. -/
theorem Step.idle_of_gone (h : c.Step use c') (gone : c'.receiving = false) :
    use.accepted? = none ∧ use.received? = none := by
  cases h with
  | send f sending =>
    rw [(c.send_ends f).2.1] at gone
    rcases c.send_cases f with ⟨-, hsend⟩ | ⟨hthere, -⟩ | ⟨hthere, -⟩
    · simp [hsend, ChannelUse.accepted?, ChannelUse.received?]
    · simp [gone] at hthere
    · simp [gone] at hthere
  | ask timeout receiving =>
    have hthere : c.receiving = false := c.nextFrame_ends.2.1.symm.trans gone
    simp [receiving] at hthere
  | _ => exact ⟨rfl, rfl⟩

/-- No more frames are pending than there is room for. -/
theorem Step.bounded (h : c.Step use c') (bound : c.pending.length ≤ frameCapacity) :
    c'.pending.length ≤ frameCapacity := by
  cases h with
  | send f sending =>
    rcases c.send_cases f with ⟨-, hsend⟩ | ⟨-, hroom, hsend⟩ | ⟨-, -, hsend⟩
    · simpa [hsend] using bound
    · rw [hsend, List.length_append]
      exact hroom
    · simpa [hsend] using bound
  | ask timeout receiving =>
    have hlength := congrArg List.length c.pending_nextFrame
    rw [List.length_append] at hlength
    show c.nextFrame.value.2.pending.length ≤ frameCapacity
    omega
  | dropSource receiving => exact Nat.zero_le _
  | _ => exact bound

/-- Senders come by cloning one, and go by dropping one. -/
theorem Step.senders (h : c.Step use c') :
    c'.senders + (if use.dropsSender then 1 else 0) =
      c.senders + (if use.addsSender then 1 else 0) := by
  cases h with
  | send f sending => exact (c.send_ends f).1
  | ask timeout receiving => exact c.nextFrame_ends.1
  | dropSender sending => exact Nat.sub_add_cancel sending
  | _ => rfl

/-- The source is there until it is dropped. -/
theorem Step.receiving_iff (h : c.Step use c') :
    c'.receiving = true ↔ c.receiving = true ∧ .sourceDropped ≠ use := by
  cases h with
  | send f sending => simp [(c.send_ends f).2.1]
  | ask timeout receiving =>
    have hsame : (FrameSource.nextFrame c timeout).value.2.receiving = c.receiving :=
      c.nextFrame_ends.2.1
    simp [hsame]
  | clone sending => simp [addSender]
  | dropSender sending => simp [FrameChannel.dropSender]
  | stop receiving => simp [FrameSource.stop, FrameChannel.stop]
  | dropSource receiving => simp [dropReceiver]

/-- It goes on until it is stopped. -/
theorem Step.stopped_iff (h : c.Step use c') :
    c'.stopped = true ↔ c.stopped = true ∨ .sourceStopped = use := by
  cases h with
  | send f sending => simp [(c.send_ends f).2.2]
  | ask timeout receiving =>
    have hsame : (FrameSource.nextFrame c timeout).value.2.stopped = c.stopped :=
      c.nextFrame_ends.2.2
    simp [hsame]
  | clone sending => simp [addSender]
  | dropSender sending => simp [FrameChannel.dropSender]
  | stop receiving => simp [FrameSource.stop, FrameChannel.stop]
  | dropSource receiving => simp [dropReceiver]

/-! ## What a run keeps -/

/-- A channel is as its history says. -/
structure Kept (history : List ChannelUse) (c : FrameChannel) : Prop where
  /-- What was accepted was received or is outstanding, which is what is pending unless the source
  is gone. -/
  conserved : ∃ outstanding, accepted history = received history ++ outstanding ∧
    outstanding.length ≤ frameCapacity ∧ (c.receiving = true → outstanding = c.pending)
  /-- There are as many senders as were added and not dropped. -/
  senders : c.senders + history.countP ChannelUse.dropsSender =
    history.countP ChannelUse.addsSender + 1
  /-- The source is there until it is dropped. -/
  receiving : c.receiving = true ↔ .sourceDropped ∉ history
  /-- It goes on until it is stopped. -/
  stopped : c.stopped = true ↔ .sourceStopped ∈ history

/-- A new channel has no history. -/
theorem Kept.fresh (width height : UInt32) (format : SurfaceFormat) :
    Kept [] { width, height, format } where
  conserved := ⟨[], rfl, Nat.zero_le _, fun _ => rfl⟩
  senders := rfl
  receiving := by simp
  stopped := by simp

/-- Frames that are outstanding stay in order over one more use. -/
theorem Kept.conserved_step {history : List ChannelUse} (kept : Kept history c)
    (step : c.Step use c') :
    ∃ outstanding, accepted (history ++ [use]) = received (history ++ [use]) ++ outstanding ∧
      outstanding.length ≤ frameCapacity ∧ (c'.receiving = true → outstanding = c'.pending) := by
  obtain ⟨outstanding, hconserved, hbound, hpending⟩ := kept.conserved
  rw [accepted_concat, received_concat, hconserved]
  -- What is outstanding is what is pending, until the source goes; from then on it stays as it is.
  cases there : c'.receiving with
  | true =>
    obtain ⟨hthere, hflow⟩ := step.conserves there
    obtain rfl := hpending hthere
    refine ⟨c'.pending, ?_, step.bounded hbound, fun _ => rfl⟩
    rw [List.append_assoc, hflow, List.append_assoc]
  | false =>
    obtain ⟨hunaccepted, hunreceived⟩ := step.idle_of_gone there
    refine ⟨outstanding, ?_, hbound, nofun⟩
    simp [hunaccepted, hunreceived]

/-- Every use of a channel adds to its history what it does. -/
theorem Kept.step {history : List ChannelUse} (kept : Kept history c) (step : c.Step use c') :
    Kept (history ++ [use]) c' where
  conserved := kept.conserved_step step
  senders := by
    have hbefore := kept.senders
    have hstep := step.senders
    rw [List.countP_append, List.countP_append, List.countP_singleton, List.countP_singleton]
    omega
  receiving := by
    rw [step.receiving_iff, kept.receiving, List.mem_append, List.mem_singleton, not_or]
  stopped := by
    rw [step.stopped_iff, kept.stopped, List.mem_append, List.mem_singleton]

/-- So does a run. -/
theorem Run.kept {width height : UInt32} {format : SurfaceFormat} {history : List ChannelUse}
    (run : Run { width, height, format } history c) : Kept history c := by
  induction run with
  | none => exact .fresh width height format
  | more _ step ih => exact ih.step step

/-! ## What the next use finds -/

section Next

variable {history : List ChannelUse}

/-- Senders are gone if there are none left. -/
theorem Kept.sendersGone_iff (kept : Kept history c) : SendersGone history ↔ c.senders = 0 := by
  have hsenders := kept.senders
  unfold SendersGone
  omega

/-- While the source is there, what was accepted was received or is pending. -/
theorem Kept.accepted_eq (kept : Kept history c) (there : .sourceDropped ∉ history) :
    accepted history = received history ++ c.pending := by
  obtain ⟨outstanding, hconserved, -, hpending⟩ := kept.conserved
  rw [hconserved, hpending (kept.receiving.mpr there)]

/-- While the source is there, a frame is dropped exactly if there is no room for it. -/
theorem Kept.send_there (kept : Kept history c) (there : .sourceDropped ∉ history)
    (f : CapturedFrame) :
    (c.send f = (.ok false, c) ↔ Full history) ∧ ((c.send f).1 = .ok true ↔ ¬ Full history) := by
  obtain ⟨outstanding, hconserved, hbound, hpending⟩ := kept.conserved
  have hthere : c.receiving = true := kept.receiving.mpr there
  obtain rfl := hpending hthere
  have hfull : Full history ↔ frameCapacity ≤ c.pending.length := by
    unfold Full
    rw [hconserved, List.length_append]
    omega
  rw [hfull]
  rcases c.send_cases f with ⟨hgone, -⟩ | ⟨-, hroom, hsend⟩ | ⟨-, hnone, hsend⟩
  · simp [hthere] at hgone
  · simp [hsend, hroom]
  · simp [hsend, hnone]

/-- Once the source is gone, sending fails. -/
theorem Kept.send_gone (kept : Kept history c) (gone : .sourceDropped ∈ history)
    (f : CapturedFrame) : c.send f = (.error .disconnected, c) := by
  have hgone : ¬ c.receiving = true := fun h => kept.receiving.mp h gone
  rcases c.send_cases f with ⟨-, hsend⟩ | ⟨hthere, -⟩ | ⟨hthere, -⟩
  · exact hsend
  · exact absurd hthere hgone
  · exact absurd hthere hgone

/-- Until it is stopped, a source gives the frame that comes next, if there is one; otherwise it
tells whether there can still be one. -/
theorem Kept.nextFrame_going (kept : Kept history c) (there : .sourceDropped ∉ history)
    (going : .sourceStopped ∉ history) :
    (∀ f, c.nextFrame.value.1 = .frame f ↔ received history ++ [f] <+: accepted history) ∧
      (c.nextFrame.value.1 = .failed .disconnected ↔
        SendersGone history ∧ received history = accepted history) ∧
      (c.nextFrame.value.1 = .nothing ↔
        ¬ SendersGone history ∧ received history = accepted history) := by
  rw [kept.sendersGone_iff, kept.accepted_eq there]
  simp only [List.prefix_append_right_inj, List.self_eq_append_right]
  rcases c.nextFrame_cases with ⟨hstopped, -⟩ | ⟨-, ⟨f, fs, hpending, hnext⟩ |
    ⟨hpending, hsenders, hnext⟩ | ⟨hpending, hsenders, hnext⟩⟩
  · exact absurd (kept.stopped.mp hstopped) going
  · simp [hnext, hpending, eq_comm]
  · simp [hnext, hpending, hsenders]
  · simp [hnext, hpending, hsenders]

/-- Once it is stopped, a source gives nothing. -/
theorem Kept.nextFrame_stopped (kept : Kept history c) (stopped : .sourceStopped ∈ history) :
    c.nextFrame.value = (.failed .stopped, c) := by
  rcases c.nextFrame_cases with ⟨-, hnext⟩ | ⟨hgoing, -⟩
  · exact hnext
  · simp [kept.stopped.mpr stopped] at hgoing

/-- However sending, cloning and dropping senders, asking, stopping and dropping the source come one
after the other, the frames that a channel gives are the first of those that it accepted, in their
order, with at most as many outstanding as there is room for. While the source is there, a frame is
dropped, and nothing changes, exactly if so many are outstanding, and accepted otherwise. The source
gives the next frame as long as there is one; it tells of a disconnection exactly if all senders are
gone and it has given every frame accepted; and once stopped it says so and takes nothing. When the
source is gone all sending fails. -/
theorem frames_in_order {width height : UInt32} {format : SurfaceFormat}
    (run : Run { width, height, format } history c) :
    received history <+: accepted history ∧
      (accepted history).length ≤ (received history).length + frameCapacity ∧
      (.sourceDropped ∉ history → ∀ f,
        (c.send f = (.ok false, c) ↔ Full history) ∧
          ((c.send f).1 = .ok true ↔ ¬ Full history)) ∧
      (.sourceDropped ∈ history → ∀ f, c.send f = (.error .disconnected, c)) ∧
      (.sourceDropped ∉ history → .sourceStopped ∉ history → ∀ timeout,
        let answer := (FrameSource.nextFrame c timeout).value.1
        (∀ f, answer = .frame f ↔ received history ++ [f] <+: accepted history) ∧
          (answer = .failed .disconnected ↔
            SendersGone history ∧ received history = accepted history) ∧
          (answer = .nothing ↔ ¬ SendersGone history ∧ received history = accepted history)) ∧
      (.sourceStopped ∈ history → ∀ timeout,
        (FrameSource.nextFrame c timeout).value = (.failed .stopped, c)) := by
  have hkept : Kept history c := run.kept
  obtain ⟨outstanding, hconserved, hbound, -⟩ := hkept.conserved
  refine ⟨⟨outstanding, hconserved.symm⟩, ?_, hkept.send_there, hkept.send_gone,
    fun there going _ => hkept.nextFrame_going there going,
    fun stopped _ => hkept.nextFrame_stopped stopped⟩
  rw [hconserved, List.length_append]
  exact Nat.add_le_add_left hbound _

end Next

/-- A frame with a number. -/
def numbered (n : UInt64) : CapturedFrame :=
  ⟨4096, 256, 64, 48, .bgra, true, ⟨⟨0⟩, .zero⟩, n⟩

/-- Of four frames sent in a row the last is dropped. The source gives the first one and is stopped:
there is room for another frame then, but none will be given. -/
theorem frames_in_order_overfull :
    let history : List ChannelUse :=
      [.sent (numbered 0) (.ok true), .senderCloned, .sent (numbered 1) (.ok true),
        .sent (numbered 2) (.ok true), .sent (numbered 3) (.ok false), .senderDropped,
        .asked (.frame (numbered 0)), .sourceStopped]
    let c : FrameChannel :=
      { width := 64, height := 48, format := .bgra, pending := [numbered 1, numbered 2]
        stopped := true }
    received history = [numbered 0] ∧
      accepted history = [numbered 0, numbered 1, numbered 2] ∧
      received history <+: accepted history ∧ (c.send (numbered 4)).1 = .ok true ∧
      (FrameSource.nextFrame c .zero).value = (.failed .stopped, c) := by
  intro history c
  have run : Run { width := 64, height := 48, format := .bgra } history c :=
    .more (.more (.more (.more (.more (.more (.more (.more .none
      (.send (numbered 0) (by decide))) (.clone (by decide))) (.send (numbered 1) (by decide)))
      (.send (numbered 2) (by decide))) (.send (numbered 3) (by decide)))
      (.dropSender (by decide))) (.ask .zero (by decide))) (.stop (by decide))
  obtain ⟨hfirst, -, hsend, -, -, hstopped⟩ := frames_in_order run
  have there : .sourceDropped ∉ history := by simp [history]
  have room : ¬ Full history := by decide
  have stopped : .sourceStopped ∈ history := by simp [history]
  exact ⟨rfl, rfl, hfirst, (hsend there (numbered 4)).2.mpr room, hstopped stopped .zero⟩

end FrameChannel

end Framecast

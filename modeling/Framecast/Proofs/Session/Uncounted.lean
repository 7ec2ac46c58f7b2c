import Framecast.Proofs.Session.Accounts
import Framecast.Proofs.Session.Announced

/-!
# Calls that need no counting

Frames that are sent, packets that are received and written, and launches are counted; other calls
are not (`Uncounted`). Accounts stay what they are over such calls, and a session is launched by
such calls only.
-/

namespace Framecast

/-- It has to do with a frame that is sent, with a packet, or with a launch. -/
def Call.counts : Call → Bool
  | .sendFrame _ _ => true
  | .receive _ => true
  | .writePacket _ _ => true
  | .launch _ => true
  | _ => false

/-- None of the calls needs counting. -/
def Uncounted (calls : List Call) : Prop := ∀ c ∈ calls, c.counts = false

namespace Uncounted

variable {calls more : List Call}

/-- Calls that need no counting one after the other need none. -/
theorem append (h : Uncounted calls) (h' : Uncounted more) : Uncounted (calls ++ more) :=
  List.forall_mem_append.mpr ⟨h, h'⟩

/-- A call that needs no counting may come before others. -/
theorem cons {c : Call} (h : c.counts = false) (h' : Uncounted calls) : Uncounted (c :: calls) :=
  List.forall_mem_cons.mpr ⟨h, h'⟩

/-- A view that sees none of these calls sees nothing in them. -/
theorem unseen {α : Type} {view : Call → Option α} (blind : ∀ c, c.counts = false → view c = none)
    (h : Uncounted calls) : calls.filterMap view = [] :=
  List.filterMap_eq_nil_iff.mpr fun c hc => blind c (h c hc)

/-- No frame is sent. -/
theorem sent (h : Uncounted calls) : calls.filterMap Call.sent? = [] := by
  refine h.unseen fun c hc => ?_
  cases c <;> first | rfl | cases hc

/-- No packet is taken. -/
theorem taken (h : Uncounted calls) : calls.filterMap Call.taken? = [] := by
  refine h.unseen fun c hc => ?_
  cases c <;> first | rfl | cases hc

/-- No packet is refused. -/
theorem refused (h : Uncounted calls) : calls.filterMap Call.refused? = [] := by
  refine h.unseen fun c hc => ?_
  cases c <;> first | rfl | cases hc

/-- No packet is handed on. -/
theorem handed (h : Uncounted calls) : calls.filterMap Call.handed? = [] := by
  refine h.unseen fun c hc => ?_
  cases c <;> first | rfl | cases hc

/-- No packet is received. -/
theorem received (h : Uncounted calls) : calls.filterMap Call.received? = [] := by
  refine h.unseen fun c hc => ?_
  cases c <;> first | rfl | cases hc

/-- No end of stream is reported. -/
theorem endless (h : Uncounted calls) : .receive .endOfStream ∉ calls := by
  intro hc
  cases h _ hc

end Uncounted

variable {ε κ σ : Type} [Encoder ε] [Container κ]

omit [Encoder ε] [Container κ] in
/-- A session is accounted for over calls that need no counting. -/
theorem Session.Accounted.uncounted {s : Session ε κ} {calls more : List Call}
    (h : s.Accounted calls) (hmore : Uncounted more) : s.Accounted (calls ++ more) := by
  have hintact : Intact more := by
    unfold Intact
    rw [hmore.handed, hmore.received]
  refine h.extend more hintact ?_ ?_ ?_ ?_
  · rw [hmore.sent]
    rfl
  · rw [hmore.taken]
    rfl
  · rw [hmore.refused]
    rfl
  · exact ⟨.inl, fun hend => hend.elim id fun hc => absurd hc hmore.endless⟩

omit [Encoder ε] [Container κ] in
/-- An encoder is planned by calls that need no counting. -/
theorem uncounted_configure (has : String → Bool) (r : EncoderRequest) :
    Uncounted (configure has r).calls := by
  intro c hc
  obtain ⟨name, rfl⟩ := lookups_configure has r c hc
  rfl

omit [Encoder ε] in
/-- A stream is published by calls that need no counting. -/
theorem PublishedBy.uncounted {c : κ} {config : EncoderConfig} {extradata : Option ByteArray}
    {calls : List Call} {r : Except MuxError OutputStream × κ}
    (h : PublishedBy c config extradata calls r) : Uncounted calls := by
  cases h with
  | _ => simp [Uncounted, Call.counts]

/-- A session that starts is started by calls that need no counting. -/
theorem SessionBuilder.uncounted_start {b : SessionBuilder ε κ} {width height : UInt32}
    {format : SurfaceFormat} {now : Instant} {s : Session ε κ}
    (h : (b.start width height format now).value = .session s) :
    Uncounted (b.start width height format now).calls := by
  have hs := b.start_startedBy width height format now
  rw [h] at hs
  generalize (b.start width height format now).calls = calls at hs
  cases hs with
  | started binds published header =>
    cases binds with
    | @intro device config plans bind =>
      have hacquire : Uncounted b.driver.acquire.calls := by
        have ha := b.driver.acquire_acquiredBy
        rw [plans.acquired] at ha
        generalize b.driver.acquire.calls = calls at ha
        cases ha with
        | created => simp [Uncounted, Call.counts]
      have hbind : Uncounted (b.backend.bind device config format.pixelFormat).calls := by
        have hb := b.backend.bind_boundBy device config format.pixelFormat
        rw [bind] at hb
        generalize (b.backend.bind device config format.pixelFormat).calls = calls at hb
        cases hb with
        | bound => simp [Uncounted, Call.counts]
      have hheader : Uncounted [Call.writeHeader (.ok ())] := by simp [Uncounted, Call.counts]
      exact (((hacquire.append (uncounted_configure _ _)).append hbind).append
        published.uncounted).append hheader

/-- A session that is launched is launched by calls that need no counting, and begins fresh. -/
theorem SessionLauncher.launched_cases [FrameSource σ] {l l' : SessionLauncher ε κ σ}
    {config : SessionConfig} {now : Instant} {launched : Launched σ (Session ε κ)}
    (h : (l.launch config now).value = (.ok launched, l')) :
    Uncounted (l.launch config now).calls ∧ launched.pipeline.Accounted [] := by
  rcases hs : l.openSource l.launches config with e | source
  · simp [launch, hs] at h
  rcases hc : l.openContainer l.launches config with e | container
  · simp [launch, startWith, hs, hc] at h
  rcases hv : (SessionBuilder.start
    ⟨l.driver l.launches, l.backend l.launches, container, config⟩
    (FrameSource.dimensions source).1 (FrameSource.dimensions source).2 (FrameSource.format source)
    now).value with s | ⟨e, c⟩
  · have hp := SessionBuilder.uncounted_start hv
    have hl : launched = ⟨source, s⟩ := by
      simp [launch, startWith, hs, hc, hv] at h
      exact h.1.symm
    subst hl
    refine ⟨?_, .start hv⟩
    have hall := Uncounted.cons (c := .openSource config (.ok ())) rfl
      (.cons (c := .openContainer config (.ok ())) rfl hp)
    simpa [launch, startWith, hs, hc, hv, Except.map] using hall
  · simp [launch, startWith, hs, hc, hv] at h

end Framecast

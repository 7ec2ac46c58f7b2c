import Mathlib.Data.List.DropRight
import Framecast.Proofs.Engine.Counters
import Framecast.Proofs.Engine.Lives
import Framecast.Proofs.Engine.Quiet
import Framecast.Proofs.Session.Reported
import Framecast.Proofs.Session.Sample
import Framecast.Proofs.Session.Uncounted

/-!
# The figures of a session

While a session is live, its counters are the numbers of frames that the encoder took, of packets
and bytes that the container took, and of packets that it refused, since the session was launched
(`Counting`). A turn of the loop keeps that, because the answer to a frame says what its submission
did.

When the session ends, its figures are published once. What the flush adds is known from the summary
of the session, which does not tell bytes, and which there is only if nothing failed
(`final_figures`).
-/

namespace Framecast

open Journaled

/-! ## The calls of a session -/

/-- A session is launched. -/
def Call.isLaunch : Call → Bool
  | .launch _ => true
  | _ => false

/-- The calls since a session was launched last. -/
def sinceLaunch (calls : List Call) : List Call := calls.rtakeWhile fun c => !c.isLaunch

/-- No session is launched by any of the calls. -/
def Launchless (calls : List Call) : Prop := ∀ c ∈ calls, c.isLaunch = false

/-- Calls that launch no session add to those since the last launch. -/
theorem sinceLaunch_append (calls : List Call) {more : List Call} (h : Launchless more) :
    sinceLaunch (calls ++ more) = sinceLaunch calls ++ more := by
  have htake : ∀ c ∈ more.reverse, (!c.isLaunch) = true := by
    intro c hc
    rw [h c (List.mem_reverse.mp hc)]
    rfl
  simp only [sinceLaunch, List.rtakeWhile, List.reverse_append]
  rw [List.takeWhile_append_of_pos htake, List.reverse_append, List.reverse_reverse]

/-- A launch begins anew. -/
theorem sinceLaunch_launch (calls : List Call) (config : SessionConfig) {more : List Call}
    (h : Launchless more) : sinceLaunch (calls ++ .launch config :: more) = more := by
  have hnew : sinceLaunch (calls ++ [.launch config]) = [] := by
    simp [sinceLaunch, Call.isLaunch]
  have hsplit : calls ++ .launch config :: more = calls ++ [.launch config] ++ more := by simp
  rw [hsplit, sinceLaunch_append _ h, hnew, List.nil_append]

/-- Calls that launch no session one after the other launch none. -/
theorem Launchless.append {calls more : List Call} (h : Launchless calls) (h' : Launchless more) :
    Launchless (calls ++ more) :=
  List.forall_mem_append.mpr ⟨h, h'⟩

/-- Calls that need no counting launch no session. -/
theorem Uncounted.launchless {calls : List Call} (h : Uncounted calls) : Launchless calls := by
  intro c hc
  have hu := h c hc
  cases c with
  | launch config => cases hu
  | _ => rfl

variable {ε κ σ : Type} [Encoder ε] [Container κ]

/-! ## Counting -/

/-- The counters are the numbers of frames, packets and bytes in these calls, up to 64 bits. -/
structure Metrics.Tallies (m : Metrics) (calls : List Call) : Prop where
  /-- The frames that the encoder took are counted. -/
  sent : m.framesSubmitted = .ofNat (calls.filterMap Call.sent?).length
  /-- The packets that the container took are counted. -/
  taken : m.packetsWritten = .ofNat (calls.filterMap Call.taken?).length
  /-- The bytes that it took are counted. -/
  bytes : m.bytesWritten = .ofNat (takenBytes calls)
  /-- The packets that it refused are counted. -/
  refused : m.writeFailures = .ofNat (calls.filterMap Call.refused?).length

namespace Metrics

variable {m : Metrics} {calls more : List Call}

/-- Counters that are not touched tally what they did. -/
theorem Tallies.congr {m' : Metrics} (h : m.Tallies calls)
    (hs : m'.framesSubmitted = m.framesSubmitted) (hp : m'.packetsWritten = m.packetsWritten)
    (hb : m'.bytesWritten = m.bytesWritten) (hf : m'.writeFailures = m.writeFailures) :
    m'.Tallies calls :=
  ⟨hs.trans h.sent, hp.trans h.taken, hb.trans h.bytes, hf.trans h.refused⟩

/-- Calls by which no frame is sent and no packet taken or refused leave the counters right. -/
theorem Tallies.blank (h : m.Tallies calls) (hs : more.filterMap Call.sent? = [])
    (ht : more.filterMap Call.taken? = []) (hr : more.filterMap Call.refused? = []) :
    m.Tallies (calls ++ more) := by
  refine ⟨?_, ?_, ?_, ?_⟩
  · rw [h.sent, List.filterMap_append, hs, List.append_nil]
  · rw [h.taken, List.filterMap_append, ht, List.append_nil]
  · have hb : takenBytes more = 0 := by simp [takenBytes, ht]
    rw [h.bytes, takenBytes_append, hb, Nat.add_zero]
  · rw [h.refused, List.filterMap_append, hr, List.append_nil]

/-- Calls that need no counting leave the counters right. -/
theorem Tallies.uncounted (h : m.Tallies calls) (hmore : Uncounted more) :
    m.Tallies (calls ++ more) :=
  h.blank hmore.sent hmore.taken hmore.refused

/-- A report is added to the counters. -/
theorem Tallies.recordDrain (h : m.Tallies calls) {report : DrainReport}
    (tells : Tells more (.ok report)) : (m.recordDrain report).Tallies (calls ++ more) := by
  obtain ⟨hs, hw, hb, hf⟩ := tells
  obtain ⟨stops, stall, hm⟩ := m.recordDrain_eq report
  rw [hm]
  refine ⟨?_, ?_, ?_, ?_⟩
  · rw [List.filterMap_append, List.length_append, hs, UInt64.ofNat_add, ← h.sent]
    rfl
  · rw [List.filterMap_append, List.length_append, UInt64.ofNat_add, ← h.taken, ← hw]
  · rw [takenBytes_append, UInt64.ofNat_add, ← h.bytes, ← hb]
  · rw [List.filterMap_append, List.length_append, UInt64.ofNat_add, ← h.refused, ← hf]

/-- The answer to a frame is added to the counters. -/
theorem Tallies.counting (h : m.Tallies calls) (f : CapturedFrame)
    {answer : Except SessionError DrainReport} (tells : Tells more answer) :
    (m.counting f answer).Tallies (calls ++ more) := by
  have hrepeated : (if f.isNew then m else m.recordRepeated).Tallies calls := by
    split
    · exact h
    · exact h.congr rfl rfl rfl rfl
  rcases answer with e | report
  · obtain ⟨hs, ht, hr⟩ := tells
    exact hrepeated.blank hs ht hr
  · exact hrepeated.recordDrain tells

end Metrics

/-- A drain cycle launches no session. -/
theorem Cycled.launchless {d : PacketDrain} {e : ε} {timeBase : Rational} {stream : OutputStream}
    {pts : Int64} {c : κ} {calls : List Call} {drained : Drained ε κ}
    (h : Cycled d e timeBase stream pts c calls drained) : Launchless calls := by
  intro c hc
  have ht := h.transfers c hc
  cases c <;> first | rfl | cases ht

/-- Submitting a frame launches no session. -/
theorem Session.Submitted.launchless {s s' : Session ε κ} {f : CapturedFrame} {calls : List Call}
    {answer : Answer} (h : s.Submitted f calls answer s') : Launchless calls := by
  cases h with
  | refused => simp [Launchless]
  | unsent => simp [Launchless, Call.isLaunch]
  | drained _ _ cycled => exact List.forall_mem_cons.mpr ⟨rfl, cycled.launchless⟩

variable [QuietSource σ]

/-- A turn of the loop is counted, by the counters and by the session, and launches no session. -/
theorem CaptureLoop.Turned.counted {l l' : CaptureLoop σ (Session ε κ)} {m m' : Metrics}
    {stop : Bool} {calls more : List Call} (h : l.Turned m stop more (l', m'))
    (accounted : l.pipeline.Accounted calls) (tallies : m.Tallies calls) :
    l'.pipeline.Accounted (calls ++ more) ∧ m'.Tallies (calls ++ more) ∧ Launchless more := by
  have hpoll : Uncounted [.nextFrame l.interval] := by simp [Uncounted, Call.counts]
  cases h with
  | idle =>
    rw [List.append_nil]
    exact ⟨accounted, tallies, by simp [Launchless]⟩
  | stopped =>
    rw [List.append_nil]
    exact ⟨accounted, tallies, by simp [Launchless]⟩
  | unfed =>
    rw [pollCalls_quiet]
    exact ⟨accounted.uncounted hpoll, tallies.uncounted hpoll, hpoll.launchless⟩
  | lost =>
    rw [pollCalls_quiet]
    exact ⟨accounted.uncounted hpoll, tallies.uncounted hpoll, hpoll.launchless⟩
  | @fed f source answer pipeline t received dropped running untold polled submitted =>
    have hsub :
        l.pipeline.Submitted f (Pipeline.submit l.pipeline f).calls (.ok answer) pipeline := by
      have h := l.pipeline.submit_submitted f
      change (l.pipeline.submit f).value = (.ok answer, pipeline) at submitted
      rw [submitted] at h
      exact h
    -- The loop asks for a frame and hands it over before the session does anything with it.
    have hsplit : calls ++ (l.pollCalls ++ l.submitCalls f) =
        calls ++ [.nextFrame l.interval, .submit f] ++ (Pipeline.submit l.pipeline f).calls := by
      simp [submitCalls]
    have hbefore : Uncounted [.nextFrame l.interval, .submit f] := by
      simp [Uncounted, Call.counts]
    rw [hsplit]
    refine ⟨(accounted.uncounted hbefore).submitted hsub (by simp), ?_, ?_⟩
    · exact (tallies.uncounted hbefore).counting f hsub.reported
    · have hlaunchless := hbefore.launchless.append hsub.launchless
      rw [pollCalls_quiet]
      exact hlaunchless

namespace Engine

variable {e e' : Engine (SessionLauncher ε κ σ) σ (Session ε κ)} {now : Instant}
  {calls more : List Call} {events : List Event}
  {r : Except Overflow Unit × Engine (SessionLauncher ε κ σ) σ (Session ε κ)}

/-- The counters of the engine and those of its session are what happened since the launch. -/
def Counting (calls : List Call) (e : Engine (SessionLauncher ε κ σ) σ (Session ε κ)) : Prop :=
  ∀ l, e.capture = some l → l.ended ≠ some .broken →
    l.pipeline.Accounted (sinceLaunch calls) ∧ e.metrics.Tallies (sinceLaunch calls)

omit [Encoder ε] [Container κ] [QuietSource σ] in
/-- An engine without a capture loop has nothing to count. -/
theorem Counting.of_none (h : e.capture = none) : Counting calls e := by
  intro l hl
  rw [h] at hl
  cases hl

omit [Encoder ε] [Container κ] [QuietSource σ] in
/-- Counting does not depend on what else there is to an engine. -/
theorem Counting.congr (h : Counting calls e) (hcapture : e'.capture = e.capture)
    (hs : e'.metrics.framesSubmitted = e.metrics.framesSubmitted)
    (hp : e'.metrics.packetsWritten = e.metrics.packetsWritten)
    (hb : e'.metrics.bytesWritten = e.metrics.bytesWritten)
    (hf : e'.metrics.writeFailures = e.metrics.writeFailures) : Counting calls e' := by
  intro l hl unbroken
  rw [hcapture] at hl
  obtain ⟨accounted, tallies⟩ := h l hl unbroken
  exact ⟨accounted, tallies.congr hs hp hb hf⟩

omit [Encoder ε] [Container κ] [QuietSource σ] in
/-- Neither does it change where no call is made. -/
theorem Counting.uncalled (h : Counting calls e) (hcapture : e'.capture = e.capture)
    (hs : e'.metrics.framesSubmitted = e.metrics.framesSubmitted)
    (hp : e'.metrics.packetsWritten = e.metrics.packetsWritten)
    (hb : e'.metrics.bytesWritten = e.metrics.bytesWritten)
    (hf : e'.metrics.writeFailures = e.metrics.writeFailures) : Counting (calls ++ []) e' := by
  rw [List.append_nil]
  exact h.congr hcapture hs hp hb hf

/-- Stopping on command keeps the count, or lets go of what is counted. -/
theorem Counting.stopped (h : Counting calls e) (stops : e.Stops now more events r) :
    Counting (calls ++ more) r.2 := by
  cases stops with
  | cleared => exact h.uncalled rfl rfl rfl rfl rfl
  | ignored => exact h.uncalled rfl rfl rfl rfl rfl
  | ended _ ends => exact .of_none ends.capture

/-- Looking after a session keeps the count, or lets go of what is counted. -/
theorem Counting.tended (h : Counting calls e) (tends : e.Tends now more events r) :
    Counting (calls ++ more) r.2 := by
  cases tends with
  | noticed _ ends => exact .of_none ends.capture
  | quiet => exact h.uncalled rfl rfl rfl rfl rfl
  | unfigured => exact h.uncalled rfl rfl rfl rfl rfl
  | reported => exact h.uncalled rfl rfl rfl rfl rfl

/-- A session that starts is counted from its launch. -/
theorem Counting.started (h : Counting calls e) (settled : e.Settled) {config : SessionConfig}
    (starts : e.Starts config now more events e') : Counting (calls ++ more) e' := by
  cases starts with
  | ignored => exact h.uncalled rfl rfl rfl rfl rfl
  | rejected => exact h.uncalled rfl rfl rfl rfl rfl
  | failed free => exact .of_none (settled.capture_of_free free)
  | launched _ _ answer =>
    obtain ⟨uncounted, fresh⟩ := SessionLauncher.launched_cases answer
    intro l hl _
    obtain rfl := Option.some.inj hl
    have hsince : sinceLaunch (calls ++ launchCalls e.launcher config now) =
        (Launcher.launch e.launcher config now).calls :=
      sinceLaunch_launch calls config uncounted.launchless
    have htallies : Metrics.Tallies
        ((Metrics.new (.ofFloat32 config.fps.toUInt64.toFloat32) now).start now) [] :=
      ⟨rfl, rfl, rfl, rfl⟩
    rw [hsince]
    exact ⟨fresh.uncounted uncounted, htallies.uncounted uncounted⟩

/-- A step of a settled engine keeps the count. -/
theorem Counting.step (h : Counting calls e) (settled : e.Settled) (s : Step) (now : Instant) :
    Counting (calls ++ (e.step s now).calls) (e.step s now).value.2 := by
  have hacts := e.step_acts s now
  generalize (e.step s now).calls = more, (e.step s now).events = events,
    (e.step s now).value = x at hacts ⊢
  cases hacts with
  | started starts => exact h.started settled starts
  | stopped stops =>
    rw [snd_goOn]
    exact h.stopped stops
  | asked => exact h.uncalled rfl rfl rfl rfl rfl
  | closed _ stops => exact (h.stopped stops).congr rfl rfl rfl rfl rfl
  | crashed _ stops => exact h.stopped stops
  | tended tends =>
    rw [snd_goOn]
    exact h.tended tends
  | unheld => exact h.uncalled rfl rfl rfl rfl rfl
  | @turned l l' m more capture turned =>
    intro l'' hl'' unbroken
    obtain rfl := Option.some.inj hl''
    obtain ⟨accounted, tallies⟩ := h l capture (mt turned.broken_iff.mpr unbroken)
    obtain ⟨haccounted, htallies, hlaunchless⟩ := turned.counted accounted tallies
    rw [sinceLaunch_append _ hlaunchless]
    exact ⟨haccounted, htallies⟩
  | broke _ _ _ _ broken =>
    intro l hl unbroken
    obtain rfl := Option.some.inj hl
    exact absurd broken unbroken

/-! ## The end of a session -/

/-- A step that lets go of a capture loop without an overflow ends its session, and publishes the
figures that are published then. -/
theorem Acts.ended_of_held {s : Step} {l : CaptureLoop σ (Session ε κ)}
    {x : Verdict × Engine (SessionLauncher ε κ σ) σ (Session ε κ)}
    (h : e.Acts now s more events x) (held : e.capture = some l) (dropped : x.2.capture = none)
    (fits : ∀ o, x.1 ≠ .failed o) :
    ∃ shown e', e.Ends now more shown (.ok (), e') ∧
      events.filterMap Event.figures? = shown.filterMap Event.figures? := by
  obtain ⟨shown, last, ⟨o | u, e'⟩, ends, rfl, hlast, -, hfailed, -⟩ := h.ends_of_held held dropped
  · exact absurd ((hfailed o).mpr rfl) (fits o)
  · refine ⟨shown, e', ends, ?_⟩
    obtain rfl | rfl := hlast
    · rw [List.append_nil]
    · rw [List.filterMap_append]
      exact List.append_nil _

omit [QuietSource σ] in
/-- No figures are told along the end of a session. -/
theorem figures_takeDownEvents (l : CaptureLoop σ (Session ε κ)) (reason : StopReason) :
    (e.takeDownEvents l reason now).filterMap Event.figures? = [] := by
  have halong : ∀ (state : SessionState) (ps : List ShutdownPhase),
      (along (stoppingState? reason) state (ps.map .shutdown)).filterMap Event.figures? = [] := by
    intro state ps
    induction ps generalizing state with
    | nil => rfl
    | cons p ps ih =>
      have h := ih (.stopping reason p)
      simpa [along, stoppingState?, Happening.event?, List.filterMap_cons, Event.figures?] using h
  unfold takeDownEvents
  rw [tidings_finish_pipeline]
  exact halong _ _

/-- A session whose loop has not broken down is taken down at its end, and the figures that are
published then are those of the counters and of its summary. -/
theorem Ends.concluded {l : CaptureLoop σ (Session ε κ)} (h : e.Ends now more events (.ok (), e'))
    (held : e.capture = some l) (unbroken : l.ended ≠ some .broken) :
    ∃ result figures, (Pipeline.finish l.pipeline now).value = .ok result ∧
      e.metrics.snapshot now = .ok figures ∧ more = l.takeDownCalls now ∧
      events.filterMap Event.figures? = [finalStats figures result] := by
  cases h with
  | free capture =>
    rw [held] at capture
    cases capture
  | lost capture broken =>
    obtain rfl := Option.some.inj (held.symm.trans capture)
    exact absurd (CaptureLoop.lastEnd_eq_broken.mp broken) unbroken
  | @returned _ reason _ _ _ capture _ down =>
    obtain rfl := Option.some.inj (held.symm.trans capture)
    cases down with
    | concluded finished figured =>
      refine ⟨_, _, finished, figured, rfl, ?_⟩
      have hentering : ∀ s t, (entering s t).filterMap Event.figures? = [] := by
        intro s t
        cases t <;> rfl
      rw [List.filterMap_append, figures_takeDownEvents, List.filterMap_cons, hentering]
      rfl

/-- A live session that is stopped is over, unless its loop has broken down or there is an
overflow. -/
theorem step_stop (now : Instant) {l : CaptureLoop σ (Session ε κ)}
    {result : Except SessionError SessionSummary} (live : e.state.isLive = true)
    (held : e.capture = some l) (unbroken : l.ended ≠ some .broken)
    (finished : (Pipeline.finish l.pipeline now).value = .ok result)
    (fits : e.metrics.bytesWritten.toNat * 8 < UInt64.size) :
    (e.step (.command .stop) now).value.1 = .waiting ∧
      (e.step (.command .stop) now).value.2.capture = none ∧
      (e.step (.command .stop) now).calls = l.takeDownCalls now := by
  obtain ⟨figures, hfigures⟩ := e.metrics.snapshot_ok now fits
  have hstop := e.stopSession_stops now
  have herror : e.state.isError = false := by
    obtain ⟨config, figures, hs⟩ := SessionState.eq_live live
    rw [hs]
    rfl
  have hvalue : (e.step (.command .stop) now).value = goOn (e.stopSession now).value := by
    simp [step, handle]
  have hcalls : (e.step (.command .stop) now).calls = (e.stopSession now).calls := by
    simp [step, handle]
  rw [hvalue, hcalls]
  generalize (e.stopSession now).calls = more, (e.stopSession now).events = events,
    (e.stopSession now).value = r at hstop ⊢
  cases hstop with
  | cleared error =>
    rw [herror] at error
    cases error
  | ignored _ unlive =>
    rw [live] at unlive
    cases unlive
  | ended _ ends =>
    cases ends with
    | free capture =>
      rw [held] at capture
      cases capture
    | lost capture broken =>
      obtain rfl := Option.some.inj (held.symm.trans capture)
      exact absurd (CaptureLoop.lastEnd_eq_broken.mp broken) unbroken
    | @returned _ reason _ _ _ capture _ down =>
      obtain rfl := Option.some.inj (held.symm.trans capture)
      cases down with
      | overflowed overflow =>
        have h := finished.symm.trans overflow
        cases h
      | unfigured _ overflow =>
        have h := hfigures.symm.trans overflow
        cases h
      | concluded => exact ⟨rfl, rfl, rfl⟩

/-- What is counted at the end: the calls of the whole session if it is finished well, and those
before its flush otherwise. -/
def summed (result : Except Overflow (Except SessionError SessionSummary))
    (before whole : List Call) : List Call :=
  match result with
  | .ok (.ok _) => whole
  | _ => before

end Engine

omit [QuietSource σ] in
/-- No frame is sent while a session is finished. -/
theorem Session.FinishedBy.unsent {s : Session ε κ} {duration : Duration} {calls : List Call}
    {finished : Finished κ} (h : s.FinishedBy duration calls finished) :
    calls.filterMap Call.sent? = [] := by
  have hflush : ∀ {calls r} {s' : Session ε κ}, s.FlushedBy calls r s' →
      calls.filterMap Call.sent? = [] := by
    intro calls r s' flushed
    cases flushed with
    | skipped => rfl
    | unsent => rfl
    | @drained before more s'' d _ ends cycled =>
      have hbefore : before.filterMap Call.sent? = [] := by cases ends <;> rfl
      rw [List.filterMap_append, hbefore, unsent_of_transfers cycled.transfers]
      rfl
  cases h with
  | overflowed flushed =>
    rw [List.filterMap_append, List.filterMap_append, hflush flushed]
    rfl
  | completed flushed =>
    rw [List.filterMap_append, hflush flushed]
    rfl

omit [QuietSource σ] in
/-- A session that is taken down is accounted for, and its summary is what happened. -/
theorem CaptureLoop.taken_down [FrameSource σ] {l : CaptureLoop σ (Session ε κ)} {now : Instant}
    {calls : List Call} {result : Except SessionError SessionSummary}
    (accounted : l.pipeline.Accounted calls)
    (finished : (Pipeline.finish l.pipeline now).value = .ok result) :
    (∃ s : Session ε κ, s.Accounted (calls ++ l.takeDownCalls now) ∧
      ∀ summary, result = .ok summary → ∃ duration, summary = s.summary duration) ∧
    (l.takeDownCalls now).filterMap Call.sent? = [] := by
  have hfinish := l.pipeline.finish_finishedBy now
  change (l.pipeline.finish now).value.result = .ok result at finished
  -- Around the calls of the session itself, its end needs no counting.
  have hbefore : Uncounted
      [.stopSource (FrameSource.stop l.source).1, .release .source, .finish] := by
    simp [Uncounted, Call.counts]
  have hafter : Uncounted [.release .pipeline] := by simp [Uncounted, Call.counts]
  have hsplit : l.takeDownCalls now =
      [.stopSource (FrameSource.stop l.source).1, .release .source, .finish] ++
        (l.pipeline.finish now).calls ++ [.release .pipeline] := by
    simp [takeDownCalls]
  rw [hsplit]
  refine ⟨?_, ?_⟩
  · obtain ⟨s, hs, hsummary⟩ := (accounted.uncounted hbefore).finished hfinish (by simp [finished])
    refine ⟨s, ?_, ?_⟩
    · have h := hs.uncounted hafter
      simpa using h
    · rintro summary rfl
      exact ⟨_, hsummary summary finished⟩
  · rw [List.filterMap_append, List.filterMap_append, hbefore.sent, hfinish.unsent, hafter.sent]
    rfl

namespace Engine

/-- The figures that are published when a session ends whose loop has not broken down: one event, by
whatever step the session ends and whatever fails in its end, short of an overflow. They count the
frames that the encoder took since the launch, and the bytes that the container took before the
flush. The packets that it took and refused are those of the whole session, the flush included, if
it is finished well; otherwise they are those before the flush. -/
theorem final_figures (launcher : SessionLauncher ε κ σ) (outbox : Outbox) (start : Instant)
    {steps : List (Step × Instant)} {e : Engine (SessionLauncher ε κ σ) σ (Session ε κ)}
    (ran : ((new launcher outbox start).boot.value.run steps).value = (.waiting, e))
    {l : CaptureLoop σ (Session ε κ)} (held : e.capture = some l)
    (unbroken : l.ended ≠ some .broken) {s : Step} {now : Instant}
    (ended : (e.step s now).value.2.capture = none)
    (fits : ∀ x, (e.step s now).value.1 ≠ .failed x) :
    let before := sinceLaunch ((new launcher outbox start).boot.value.run steps).calls
    let whole := before ++ (e.step s now).calls
    let counted := summed (Pipeline.finish l.pipeline now).value before whole
    ∃ figures, (e.step s now).events.filterMap Event.figures? = [figures] ∧
      figures.framesSubmitted = .ofNat (whole.filterMap Call.sent?).length ∧
      figures.bytesWritten = .ofNat (takenBytes before) ∧
      figures.packetsWritten = .ofNat (counted.filterMap Call.taken?).length ∧
      figures.writeFailures = .ofNat (counted.filterMap Call.refused?).length := by
  intro before whole counted
  -- The counters of the engine agree with the calls since the launch, up to this step.
  have hcounting : Counting ((new launcher outbox start).boot.value.run steps).calls e := by
    obtain ⟨o, ho⟩ := value_boot (new launcher outbox start : Engine _ σ (Session ε κ))
    have hsettled := boot_settled (σ := σ) (π := Session ε κ) launcher outbox start
    have hbegin : Counting [] (new launcher outbox start : Engine _ σ (Session ε κ)).boot.value :=
      .of_none (by rw [ho]; rfl)
    have hrun := run_keeps (fun settled h => Counting.step h settled) hsettled hbegin steps
    rw [ran] at hrun
    exact hrun
  obtain ⟨accounted, tallies⟩ := hcounting l held unbroken
  obtain ⟨shown, e', hends, hshown⟩ := (e.step_acts s now).ended_of_held held ended fits
  -- The step publishes them once, with what the summary says in place of some.
  obtain ⟨result, figures, hfinished, hfigured, hcalls, hfigures⟩ := hends.concluded held unbroken
  obtain ⟨hsent, htaken, hbytes, hrefused⟩ := Metrics.figures_of_snapshot hfigured
  obtain ⟨⟨s', hs', hsummary⟩, hunsent⟩ := CaptureLoop.taken_down accounted hfinished
  have hwhole : whole = before ++ l.takeDownCalls now := congrArg _ hcalls
  refine ⟨finalStats figures result, hshown.trans hfigures, ?_, ?_, ?_⟩
  · rw [hwhole, List.filterMap_append, hunsent, List.append_nil]
    cases result <;> exact hsent.trans tallies.sent
  · cases result <;> exact hbytes.trans tallies.bytes
  · rcases result with x | summary
    · have hcounted : counted = before := by simp [counted, summed, hfinished]
      rw [hcounted]
      exact ⟨htaken.trans tallies.taken, hrefused.trans tallies.refused⟩
    · have hcounted : counted = whole := by simp [counted, summed, hfinished]
      obtain ⟨duration, rfl⟩ := hsummary summary rfl
      rw [hcounted, hwhole, ← hs'.taken, ← hs'.refused]
      exact ⟨rfl, rfl⟩

/-- A launcher of sessions that nothing refuses, for frames that never come. -/
def sampleLauncher : SessionLauncher ScriptedEncoder MemoryContainer ScriptedSource :=
  { driver := fun _ => sampleBuilder.driver
    backend := fun _ => sampleBuilder.backend
    openSource := fun _ _ => .ok ⟨64, 48, .bgra, [], none⟩
    openContainer := fun _ _ => .ok sampleBuilder.container }

/-- A session that is stopped before its first frame writes the packet that its encoder gives at the
end of input. The packet is counted at the end, and its bytes are not. -/
theorem final_figures_sample :
    let ran := (new sampleLauncher {} ⟨0⟩).boot.value.run [(.command (.start {}), ⟨0⟩)]
    let ended := ran.value.2.step (.command .stop) ⟨0⟩
    let whole := sinceLaunch ran.calls ++ ended.calls
    (whole.filterMap Call.taken?).length = 1 ∧ takenBytes whole = 6 ∧
      ∃ figures, ended.events.filterMap Event.figures? = [figures] ∧
        figures.packetsWritten = 1 ∧ figures.bytesWritten = 0 := by
  intro ran ended whole
  have hran : ran.value = (.waiting, ran.value.2) := rfl
  have hheld : ran.value.2.capture =
      some (begun ⟨⟨64, 48, .bgra, [], none⟩, sampleSession⟩ {} ⟨0⟩) := rfl
  have hflush : sampleSession.flush.value.1 = .ok none := by cbv
  have hflushed : (sampleSession.flush.calls.filterMap Call.taken?).length = 1 ∧
      takenBytes sampleSession.flush.calls = 6 := by
    constructor <;> cbv
  have htrailer : sampleSession.flush.value.2.endOutput.value.1 = none ∧
      sampleSession.flush.value.2.endOutput.calls = [.writeTrailer (.ok ())] := by
    constructor <;> cbv
  -- The session is finished well, and all packets that it writes at its end are those of its flush.
  have hfinished : (Pipeline.finish sampleSession ⟨0⟩).value =
      .ok (.ok (sampleSession.flush.value.2.summary (Instant.since ⟨0⟩ ⟨0⟩))) := by
    have h := sampleSession.finish_result ⟨0⟩
    rw [hflush, htrailer.1] at h
    exact h
  obtain ⟨hwaiting, hdropped, hcalls⟩ := step_stop ⟨0⟩ rfl hheld (by simp [begun]) hfinished
    (by decide)
  have hwhole : whole.filterMap Call.taken? = sampleSession.flush.calls.filterMap Call.taken? := by
    have hbefore : (sinceLaunch ran.calls).filterMap Call.taken? = [] := rfl
    have hfinish : (Pipeline.finish sampleSession ⟨0⟩).calls = (sampleSession.finish ⟨0⟩).calls :=
      calls_map _ _
    have hended : ended.calls = _ := hcalls
    rw [List.filterMap_append, hbefore, hended]
    simp [CaptureLoop.takeDownCalls, begun, hfinish, Session.finish_calls _ _ hflush, htrailer.2,
      BoundEncoder.releaseCalls, List.filterMap_cons, Call.taken?]
  obtain ⟨figures, hfigures, -, hbytes, htaken, -⟩ := final_figures sampleLauncher {} ⟨0⟩ hran hheld
    (by simp [begun]) hdropped (by rw [hwaiting]; simp)
  have hpackets : figures.packetsWritten = .ofNat (whole.filterMap Call.taken?).length := by
    have hsummed : summed (Pipeline.finish sampleSession ⟨0⟩).value (sinceLaunch ran.calls) whole =
        whole := by rw [hfinished]; rfl
    rw [← hsummed]
    exact htaken
  have hbytes' : takenBytes whole = takenBytes sampleSession.flush.calls := by
    unfold takenBytes
    rw [hwhole]
  refine ⟨?_, hbytes'.trans hflushed.2, figures, hfigures, ?_, hbytes⟩
  · rw [hwhole]
    exact hflushed.1
  · rw [hpackets, hwhole, hflushed.1]
    rfl

end Engine

end Framecast

import Mathlib.Algebra.GroupWithZero.Nat
import Framecast.Proofs.Engine.Acts
import Framecast.Proofs.Engine.Counters

/-!
# Reports beside the capture loop

The engine makes a report by three calls: it takes the figures, has them checked for warnings, and
marks that the report was made. The capture loop counts on its own thread, and its counts fall
anywhere between these calls (`Reporting`). Made in one go, the three calls are what the engine does
when figures are due (`emitStats_reports`).

The counter that a report is measured against is read when the report is marked, after the figures
were taken. So packets that are refused in between are told in no warning: what the warnings tell
and what falls into reports under way make up all packets refused (`announced_add_missed`).
-/

namespace Framecast

open Journaled

/-- How far the engine is with a report. -/
inductive ReportStage
  /-- No report is under way. -/
  | resting
  /-- The figures have been taken. -/
  | taken
  /-- The figures have been checked for warnings. -/
  | checked
deriving DecidableEq, Repr

/-- The stage after the next call of a report. -/
def ReportStage.next : ReportStage → ReportStage
  | .resting => .taken
  | .taken => .checked
  | .checked => .resting

/-- The counters that the engine and the capture loop share, and the reports made of them. -/
structure Reporting where
  metrics : Metrics
  stage : ReportStage := .resting
  /-- The figures taken last. -/
  figures : SessionStats := {}
  /-- All warnings so far. -/
  warned : List Warning := []

/-- A call that is made of the counters, by the engine or by the capture loop. -/
inductive Move
  /-- The engine makes the next call of its report. -/
  | report (now : Instant)
  /-- The capture loop counts a frame and the drain cycle that followed it. -/
  | drained (r : DrainReport)
  /-- The capture loop counts a drain cycle. -/
  | packets (r : DrainReport)
  /-- The capture loop counts a frame that repeats the one before. -/
  | repeated

/-- The calls of a report that nothing falls into. -/
def fullReport (t₁ t₂ t₃ : Instant) : List Move := [.report t₁, .report t₂, .report t₃]

/-- The packets that a call counts as refused. -/
def Move.refused : Move → Nat
  | .report _ => 0
  | .drained r => r.writeFailures
  | .packets r => r.writeFailures
  | .repeated => 0

/-- The packets that calls count as refused. -/
def refusedIn (moves : List Move) : Nat := (moves.map Move.refused).sum

/-- The packets that calls count as refused while a report is under way, from a stage on. -/
def refusedMidway : ReportStage → List Move → Nat
  | _, [] => 0
  | stage, .report _ :: moves => refusedMidway stage.next moves
  | stage, move :: moves =>
    (if stage = .resting then 0 else move.refused) + refusedMidway stage moves

/-- The packets that a warning tells of. -/
def Warning.refused : Warning → Nat
  | .packetWriteFailures count => count.toNat
  | _ => 0

/-- The packets that warnings tell of. -/
def announced (warnings : List Warning) : Nat := (warnings.map Warning.refused).sum

namespace Reporting

/-- A session starts, and nothing has been counted. -/
def start (targetFps : Rate) (now : Instant) : Reporting :=
  { metrics := (Metrics.new targetFps now).start now }

/-- Make one call. -/
def move (p : Reporting) : Move → Except Overflow Reporting
  | .report now =>
    match p.stage with
    | .resting =>
      match p.metrics.snapshot now with
      | .error x => .error x
      | .ok figures => .ok { p with figures, stage := .taken }
    | .taken =>
      let (warnings, metrics) := p.metrics.checkWarnings p.figures now
      .ok { p with metrics, stage := .checked, warned := p.warned ++ warnings }
    | .checked => .ok { p with metrics := p.metrics.markReported now, stage := .resting }
  | .drained r => .ok { p with metrics := p.metrics.recordDrain r }
  | .packets r => .ok { p with metrics := p.metrics.recordPackets r }
  | .repeated => .ok { p with metrics := p.metrics.recordRepeated }

/-- Make calls one after the other. -/
def run (p : Reporting) : List Move → Except Overflow Reporting
  | [] => .ok p
  | m :: moves =>
    match p.move m with
    | .error x => .error x
    | .ok p => p.run moves

/-- A report that nothing falls into is what the engine does when figures are due. -/
theorem emitStats_reports {ℓ σ π : Type} (e : Engine ℓ σ π) (now : Instant) :
    match run { metrics := e.metrics } (fullReport now now now) with
    | .error x => (e.emitStats now).value = (.error x, e)
    | .ok p =>
      (e.emitStats now).value.1 = .ok () ∧ (e.emitStats now).value.2.metrics = p.metrics ∧
        (e.emitStats now).events = p.warned.map .warning ++ [.stats p.figures] := by
  rcases hs : e.metrics.snapshot now with x | figures
  · simp [fullReport, run, move, hs, Engine.emitStats]
  · obtain ⟨o, ho⟩ := { e with metrics := (e.metrics.checkWarnings figures now).2 }.value_offerAll
      ((e.metrics.checkWarnings figures now).1.map .warning)
    obtain ⟨o', ho'⟩ := { e with
      outbox := o, metrics := (e.metrics.checkWarnings figures now).2 }.value_offer (.stats figures)
    simp [fullReport, run, move, hs, Engine.emitStats, ho, ho']

/-! ## What the warnings tell -/

/-- Warnings after others tell of the packets of both. -/
theorem announced_append (warnings more : List Warning) :
    announced (warnings ++ more) = announced warnings + announced more := by
  simp [announced]

/-- How far a count is above another one. -/
theorem toNat_excess (a b : UInt64) : (Metrics.excess a b).toNat = a.toNat - b.toNat := by
  unfold Metrics.excess
  split
  · rename_i h
    exact UInt64.toNat_sub_of_le _ _ (UInt64.le_of_lt h)
  · rename_i h
    have hle : a.toNat ≤ b.toNat := by
      rw [UInt64.lt_iff_toNat_lt] at h
      omega
    rw [Nat.sub_eq_zero_of_le hle]
    rfl

/-- A report tells of the packets that were refused since the last one was marked, as far as its
figures know. -/
theorem announced_checkWarnings (m : Metrics) (figures : SessionStats) (now : Instant) :
    announced (m.checkWarnings figures now).1 =
      figures.writeFailures.toNat - m.lastFailures.toNat := by
  have hstall : announced (m.lastStall.toList.map .encoderStalled) = 0 := by
    cases m.lastStall <;> rfl
  have hslow : ∀ c : Bool, announced
      (if c then [.frameRateBelowTarget figures.fps figures.targetFps] else []) = 0 := by
    intro c
    cases c <;> rfl
  have hrefused : ∀ n : UInt64, announced
      (if 0 < n then [.packetWriteFailures n] else []) = n.toNat := by
    intro n
    split
    · simp [announced, Warning.refused]
    · rename_i h
      rw [UInt64.lt_iff_toNat_lt] at h
      have hn : n.toNat = 0 := by
        have hzero : (0 : UInt64).toNat = 0 := rfl
        omega
      rw [hn]
      rfl
  rw [← toNat_excess]
  unfold Metrics.checkWarnings
  simp only [announced_append, hstall, hslow, hrefused, Nat.add_zero]

/-- So many packets were refused in all, and so many while a report was under way: those that the
warnings tell of make up the difference, but for those that the next report is to tell. -/
inductive Balanced (p : Reporting) (total midway : Nat) : Prop
  /-- The last report is marked up to a count, and tells all but what was refused midway. -/
  | resting (stage : p.stage = .resting) (counted : p.metrics.writeFailures.toNat = total)
      (marked : p.metrics.lastFailures.toNat ≤ total)
      (balance : announced p.warned + midway = p.metrics.lastFailures.toNat)
  /-- What the figures do not know was refused midway. -/
  | taken (stage : p.stage = .taken) (counted : p.metrics.writeFailures.toNat = total)
      (marked : p.metrics.lastFailures.toNat ≤ p.figures.writeFailures.toNat)
      (balance : announced p.warned + midway + p.figures.writeFailures.toNat =
        p.metrics.lastFailures.toNat + total)
  /-- The report has told all but what was refused midway. -/
  | checked (stage : p.stage = .checked) (counted : p.metrics.writeFailures.toNat = total)
      (balance : announced p.warned + midway = total)

/-- Nothing is refused and told of at the start. -/
theorem balanced_start (targetFps : Rate) (now : Instant) : (start targetFps now).Balanced 0 0 :=
  .resting rfl rfl (Nat.le_refl 0) rfl

section Move

variable {p p' : Reporting} {total midway : Nat}

/-- The next call of a report keeps the balance. -/
theorem Balanced.report (h : p.Balanced total midway) {now : Instant}
    (moved : p.move (.report now) = .ok p') :
    p'.Balanced total midway ∧ p'.stage = p.stage.next := by
  cases h with
  | resting stage counted marked balance =>
    rcases hs : p.metrics.snapshot now with x | figures
    · simp [move, stage, hs] at moved
    · obtain ⟨-, -, -, hfigures⟩ := Metrics.figures_of_snapshot hs
      have hp : p' = { p with figures, stage := .taken } := by
        simpa [move, stage, hs] using moved.symm
      subst hp
      -- The figures know all that was counted so far.
      have hknown : figures.writeFailures.toNat = total := by rw [hfigures, counted]
      refine ⟨.taken rfl counted ?_ ?_, by rw [stage]; rfl⟩
      · rw [hknown]
        exact marked
      · rw [hknown, balance]
  | taken stage counted marked balance =>
    have hp : p' = { p with
        metrics := (p.metrics.checkWarnings p.figures now).2
        stage := .checked
        warned := p.warned ++ (p.metrics.checkWarnings p.figures now).1 } := by
      simpa [move, stage] using moved.symm
    subst hp
    refine ⟨.checked rfl counted ?_, by rw [stage]; rfl⟩
    rw [announced_append, announced_checkWarnings]
    omega
  | checked stage counted balance =>
    have hp : p' = { p with metrics := p.metrics.markReported now, stage := .resting } := by
      simpa [move, stage] using moved.symm
    subst hp
    have hmarked : (p.metrics.markReported now).lastFailures.toNat = total := counted
    refine ⟨.resting rfl counted (Nat.le_of_eq hmarked) ?_, by rw [stage]; rfl⟩
    rw [hmarked]
    exact balance

/-- Counting packets that are refused keeps the balance: they are to be told yet, or were refused
midway. -/
theorem Balanced.count (h : p.Balanced total midway) {m : Metrics} {n : Nat}
    (refused : m.writeFailures = p.metrics.writeFailures + .ofNat n)
    (marked : m.lastFailures = p.metrics.lastFailures) (fits : total + n < UInt64.size) :
    Balanced { p with metrics := m } (total + n)
      (midway + if p.stage = .resting then 0 else n) := by
  have hcount : p.metrics.writeFailures.toNat = total → m.writeFailures.toNat = total + n := by
    intro counted
    have hn : n % UInt64.size = n := Nat.mod_eq_of_lt (by omega)
    rw [refused, UInt64.toNat_add, counted, UInt64.toNat_ofNat', hn]
    exact Nat.mod_eq_of_lt fits
  cases h with
  | resting stage counted measured balance =>
    refine .resting stage (hcount counted) ?_ ?_
    · show m.lastFailures.toNat ≤ total + n
      rw [marked]
      omega
    · show announced p.warned + _ = m.lastFailures.toNat
      rw [if_pos stage, marked]
      exact balance
  | taken stage counted measured balance =>
    refine .taken stage (hcount counted) ?_ ?_
    · show m.lastFailures.toNat ≤ _
      rw [marked]
      exact measured
    · show announced p.warned + _ + p.figures.writeFailures.toNat = m.lastFailures.toNat + _
      rw [if_neg (by simp [stage]), marked]
      omega
  | checked stage counted balance =>
    refine .checked stage (hcount counted) ?_
    show announced p.warned + _ = _
    rw [if_neg (by simp [stage])]
    omega

/-- Every call keeps the balance. -/
theorem Balanced.move (h : p.Balanced total midway) {m : Move} (moved : p.move m = .ok p')
    (fits : total + m.refused < UInt64.size) :
    p'.Balanced (total + m.refused) (midway + refusedMidway p.stage [m]) ∧
      ∀ moves, refusedMidway p.stage (m :: moves) =
        refusedMidway p.stage [m] + refusedMidway p'.stage moves := by
  cases m with
  | report now =>
    obtain ⟨hbalanced, hstage⟩ := h.report moved
    refine ⟨hbalanced, fun moves => ?_⟩
    simp [refusedMidway, hstage]
  | drained r =>
    obtain rfl := Except.ok.inj moved
    obtain ⟨stops, stall, hm⟩ := p.metrics.recordDrain_eq r
    refine ⟨h.count ?_ ?_ fits, fun moves => rfl⟩
    · rw [hm]
      rfl
    · rw [hm]
  | packets r =>
    obtain rfl := Except.ok.inj moved
    obtain ⟨stops, stall, hm⟩ := p.metrics.recordPackets_eq r
    refine ⟨h.count ?_ ?_ fits, fun moves => rfl⟩
    · rw [hm]
      rfl
    · rw [hm]
  | repeated =>
    obtain rfl := Except.ok.inj moved
    exact ⟨h.count (UInt64.add_zero _).symm rfl fits, fun moves => rfl⟩

/-- Calls one after the other keep the balance. -/
theorem Balanced.run (h : p.Balanced total midway) {moves : List Move}
    (ran : p.run moves = .ok p') (fits : total + refusedIn moves < UInt64.size) :
    p'.Balanced (total + refusedIn moves) (midway + refusedMidway p.stage moves) := by
  induction moves generalizing p total midway with
  | nil =>
    obtain rfl := Except.ok.inj ran
    exact h
  | cons m moves ih =>
    have hsum : total + refusedIn (m :: moves) = total + m.refused + refusedIn moves := by
      simp [refusedIn, Nat.add_assoc]
    rw [hsum] at fits ⊢
    rcases hm : p.move m with x | p₁
    · simp [Reporting.run, hm] at ran
    · have hran : p₁.run moves = .ok p' := by simpa [Reporting.run, hm] using ran
      obtain ⟨hbalanced, hmidway⟩ := h.move hm (by omega)
      have hrest := ih hbalanced hran fits
      rw [hmidway, ← Nat.add_assoc]
      exact hrest

/-- A report that nothing falls into tells all packets but those that were refused midway before. -/
theorem Balanced.reported (h : p.Balanced total midway) (rests : p.stage = .resting)
    {t₁ t₂ t₃ : Instant} (reported : p.run (fullReport t₁ t₂ t₃) = .ok p') :
    announced p'.warned + midway = total := by
  unfold fullReport at reported
  rcases h₁ : p.move (.report t₁) with x | p₁
  · simp [Reporting.run, h₁] at reported
  rcases h₂ : p₁.move (.report t₂) with x | p₂
  · simp [Reporting.run, h₁, h₂] at reported
  have h₃ : p₂.move (.report t₃) = .ok p' := by
    rcases h₃ : p₂.move (.report t₃) with x | p₃
    · simp [Reporting.run, h₁, h₂, h₃] at reported
    · simpa [Reporting.run, h₁, h₂, h₃] using reported
  -- Before it is marked the report has told everything, and marking it tells no more.
  obtain ⟨hbalanced₁, hstage₁⟩ := h.report h₁
  obtain ⟨hbalanced₂, hstage₂⟩ := hbalanced₁.report h₂
  have hchecked : p₂.stage = .checked := by rw [hstage₂, hstage₁, rests]; rfl
  have hp : p' = { p₂ with metrics := p₂.metrics.markReported t₃, stage := .resting } := by
    simpa [Reporting.move, hchecked] using h₃.symm
  subst hp
  cases hbalanced₂ with
  | resting stage => simp [hchecked] at stage
  | taken stage => simp [hchecked] at stage
  | checked _ _ balance => exact balance

end Move

/-- Whatever falls between the calls of the reports of a session: once a last report is made that
nothing falls into, the packets that the warnings tell of, and those that were refused while a
report was under way, are all the packets that were refused. -/
theorem announced_add_missed (targetFps : Rate) (begin : Instant) {moves : List Move}
    (fits : refusedIn moves < UInt64.size) {p q : Reporting}
    (ran : (start targetFps begin).run moves = .ok p) (rests : p.stage = .resting)
    {t₁ t₂ t₃ : Instant} (reported : p.run (fullReport t₁ t₂ t₃) = .ok q) :
    announced q.warned + refusedMidway .resting moves = refusedIn moves := by
  have hp : p.Balanced (0 + refusedIn moves) (0 + refusedMidway .resting moves) :=
    (balanced_start targetFps begin).run ran (by rwa [Nat.zero_add])
  rw [Nat.zero_add, Nat.zero_add] at hp
  exact hp.reported rests reported

/-- Three packets that are refused while a report is under way. -/
def refusedUnderWay : List Move :=
  [.report ⟨0⟩, .packets ⟨0, 0, 3, .exhausted⟩, .report ⟨0⟩, .report ⟨0⟩]

/-- No warning ever tells of three packets that are refused while a report is under way. -/
theorem announced_add_missed_sample :
    ∃ p q, (start .zero ⟨0⟩).run refusedUnderWay = .ok p ∧
      p.run (fullReport ⟨0⟩ ⟨0⟩ ⟨0⟩) = .ok q ∧
      refusedIn refusedUnderWay = 3 ∧ announced q.warned = 0 := by
  -- Both reports can take their figures, since no bytes are counted.
  obtain ⟨figures, hfigures⟩ := ((Metrics.new .zero ⟨0⟩).start ⟨0⟩).snapshot_ok ⟨0⟩ (by decide)
  let counted := ((Metrics.new .zero ⟨0⟩).start ⟨0⟩).recordPackets ⟨0, 0, 3, .exhausted⟩
  let marked := (counted.checkWarnings figures ⟨0⟩).2.markReported ⟨0⟩
  have hbytes : marked.bytesWritten = 0 := rfl
  obtain ⟨figures', hfigures'⟩ := marked.snapshot_ok ⟨0⟩ (by rw [hbytes]; decide)
  let p : Reporting :=
    { metrics := marked, figures, warned := (counted.checkWarnings figures ⟨0⟩).1 }
  have hran : (start .zero ⟨0⟩).run refusedUnderWay = .ok p := by
    simp [start, refusedUnderWay, run, move, hfigures, p, marked, counted]
  obtain ⟨q, hreported⟩ : ∃ q, p.run (fullReport ⟨0⟩ ⟨0⟩ ⟨0⟩) = .ok q := by
    simp [fullReport, run, move, p, hfigures']
  have h := announced_add_missed .zero ⟨0⟩ (by decide) hran rfl hreported
  have hmissed : refusedMidway .resting refusedUnderWay = 3 := rfl
  have hrefused : refusedIn refusedUnderWay = 3 := rfl
  rw [hmissed, hrefused] at h
  exact ⟨p, q, hran, hreported, hrefused, by omega⟩

end Reporting

end Framecast

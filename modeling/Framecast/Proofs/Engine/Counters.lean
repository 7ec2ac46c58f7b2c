import Framecast.Engine.Metrics

/-!
# Counters and figures

What a report of a drain cycle adds to the counters of a session, and what the figures tell of the
counters. Taking figures fails only if the bytes that are counted, as bits, do not fit 64 bits.
-/

namespace Framecast.Metrics

variable {m : Metrics}

/-- A cycle is counted by its packets, its bytes and its refusals. What else is counted of it are
stops and stalls. -/
theorem recordPackets_eq (m : Metrics) (r : DrainReport) :
    ∃ stops stall, m.recordPackets r = { m with
      packetsWritten := m.packetsWritten + .ofNat r.written
      bytesWritten := m.bytesWritten + .ofNat r.bytes
      writeFailures := m.writeFailures + .ofNat r.writeFailures
      flowControlStops := stops
      lastStall := stall } := by
  unfold recordPackets
  cases r.outcome <;> exact ⟨_, _, rfl⟩

/-- A frame and its cycle are counted by one frame, and by what the cycle is counted by. -/
theorem recordDrain_eq (m : Metrics) (r : DrainReport) :
    ∃ stops stall, m.recordDrain r = { m with
      framesSubmitted := m.framesSubmitted + 1
      packetsWritten := m.packetsWritten + .ofNat r.written
      bytesWritten := m.bytesWritten + .ofNat r.bytes
      writeFailures := m.writeFailures + .ofNat r.writeFailures
      flowControlStops := stops
      lastStall := stall } :=
  recordPackets_eq { m with framesSubmitted := m.framesSubmitted + 1 } r

/-- There are figures as long as the bytes that are counted, as bits, fit 64 bits. -/
theorem snapshot_ok (m : Metrics) (now : Instant)
    (fits : m.bytesWritten.toNat * 8 < UInt64.size) : ∃ figures, m.snapshot now = .ok figures := by
  have hkbps : ∃ kbps, m.bitrateKbps now = .ok kbps := by
    unfold bitrateKbps
    cases m.startTime with
    | none => exact ⟨0, rfl⟩
    | some start => by_cases helapsed : (now.since start).toSeconds32 > 0 <;> simp [helapsed, fits]
  obtain ⟨kbps, hk⟩ := hkbps
  unfold snapshot
  rw [hk]
  exact ⟨_, rfl⟩

/-- There are no figures only if the bytes that are counted, as bits, do not fit 64 bits. -/
theorem overflow_of_snapshot {now : Instant} {x : Overflow} (h : m.snapshot now = .error x) :
    x = .multiplication ∧ UInt64.size ≤ m.bytesWritten.toNat * 8 := by
  by_cases fits : m.bytesWritten.toNat * 8 < UInt64.size
  · obtain ⟨figures, hfigures⟩ := m.snapshot_ok now fits
    rw [h] at hfigures
    cases hfigures
  · have hkbps : m.bitrateKbps now = .error .multiplication ∨
        ∃ kbps, m.bitrateKbps now = .ok kbps := by
      unfold bitrateKbps
      cases m.startTime with
      | none => exact .inr ⟨0, rfl⟩
      | some start =>
        by_cases helapsed : (now.since start).toSeconds32 > 0 <;> simp [helapsed, fits]
    unfold snapshot at h
    obtain hk | ⟨kbps, hk⟩ := hkbps
    · rw [hk] at h
      cases h
      exact ⟨rfl, Nat.le_of_not_lt fits⟩
    · rw [hk] at h
      cases h

/-- Figures tell the counters. -/
theorem figures_of_snapshot {now : Instant} {figures : SessionStats}
    (h : m.snapshot now = .ok figures) :
    figures.framesSubmitted = m.framesSubmitted ∧ figures.packetsWritten = m.packetsWritten ∧
      figures.bytesWritten = m.bytesWritten ∧ figures.writeFailures = m.writeFailures := by
  unfold snapshot at h
  rcases hb : m.bitrateKbps now with x | kbps
  · rw [hb] at h
    cases h
  · rw [hb] at h
    cases h
    exact ⟨rfl, rfl, rfl, rfl⟩

end Framecast.Metrics

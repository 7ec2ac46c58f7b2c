import Framecast.Capture.Frame
import Framecast.Proofs.Time.Rational
import Framecast.Proofs.Time.Rescaling

/-!
# The ticks of longer and longer durations

The nanoseconds of a duration are cut off at the range of a timestamp and then rescaled. Both keep
the order, so that a longer duration never has fewer ticks, and from `2 ^ 63 - 1` nanoseconds on all
durations have as many. `ticks?` makes the calculation in 128 bits and always has a result
(`ticks?_eq_some`).

A frame is also stamped in microseconds, which leaves the rest of its nanoseconds out, where the
ticks of a microsecond are rounded: the two differ by one where half a microsecond or more is left
out, and otherwise not at all (`toInt_ticks_sub_micros`).
-/

namespace Framecast

/-- A second in nanoseconds, in 128 bits. -/
def Wide.second : Wide := ⟨1000000000, by decide, by decide⟩

/-- The nanoseconds of a duration, put together in 128 bits from its whole seconds and the rest. -/
def Duration.nanos? (d : Duration) : Option Wide := do
  let seconds ← Wide.ofInt? d.seconds
  let whole ← seconds.mul? .second
  let rest ← Wide.ofInt? d.subsecond
  whole.add? rest

/-- The nanoseconds of the longest duration fit. -/
theorem Duration.nanos?_eq_some (d : Duration) : ∃ w, d.nanos? = some w ∧ w.val = d.nanos := by
  have hlt := d.nanos_lt
  have hsplit : d.seconds * 1000000000 + d.subsecond = d.nanos :=
    Nat.div_add_mod' d.nanos nanosPerSecond
  simp only [UInt64.size, nanosPerSecond] at hlt
  obtain ⟨seconds, hseconds, hsecondsval⟩ :=
    Wide.ofInt?_eq_some (z := d.seconds) (by rw [abs_lt]; omega)
  obtain ⟨whole, hwhole, hwholeval⟩ : ∃ w, seconds.mul? .second = some w ∧
      w.val = seconds.val * 1000000000 :=
    Wide.ofInt?_eq_some (z := seconds.val * 1000000000) (by rw [abs_lt]; omega)
  obtain ⟨rest, hrest, hrestval⟩ :=
    Wide.ofInt?_eq_some (z := d.subsecond) (by rw [abs_lt]; omega)
  obtain ⟨w, hw, hval⟩ : ∃ w, whole.add? rest = some w ∧ w.val = whole.val + rest.val :=
    Wide.ofInt?_eq_some (by rw [abs_lt]; omega)
  refine ⟨w, ?_, by omega⟩
  unfold nanos?
  simp only [hseconds, hwhole, hrest, hw, Option.bind_eq_bind, Option.bind_some]

namespace Rational

variable {r : Rational}

/-- How many ticks of this base a duration lasts, calculated in 128 bits. -/
def ticks? (r : Rational) (d : Duration) : Option Int64 :=
  if r.isPositive then do
    let nanos ← d.nanos?
    rescale? (saturated nanos.val) nanosecond r
  else some 0

/-- Counting ticks in 128 bits has a result, and it is that of counting them without a bound. -/
theorem ticks?_eq_some (r : Rational) (d : Duration) : r.ticks? d = some (r.ticks d) := by
  unfold ticks? ticks
  split
  · obtain ⟨nanos, hnanos, hval⟩ := d.nanos?_eq_some
    show d.nanos?.bind _ = _
    rw [hnanos, Option.bind_some, hval]
    exact rescale?_eq_some _ _ _
  · rfl

/-- The ticks of a positive base are the nanoseconds, as far as a timestamp holds them, rescaled. -/
theorem ticks_eq_rescale (positive : r.isPositive = true) (d : Duration) :
    r.ticks d = rescale (saturated d.nanos) nanosecond r :=
  if_pos positive

/-- A longer duration has no fewer ticks. -/
theorem ticks_mono (positive : r.isPositive = true) {d d' : Duration}
    (longer : d.nanos ≤ d'.nanos) : r.ticks d ≤ r.ticks d' := by
  rw [ticks_eq_rescale positive, ticks_eq_rescale positive]
  exact rescale_mono rfl positive (saturated_mono (by exact_mod_cast longer))

/-- A timestamp that is not negative is rescaled to one that is not, in positive bases. -/
theorem rescale_nonneg {source target : Rational} (hs : source.isPositive = true)
    (ht : target.isPositive = true) {t : Int64} (nonneg : 0 ≤ t.toInt) :
    0 ≤ (rescale t source target).toInt := by
  obtain ⟨z, hz, hrescale⟩ :=
    rescale_nearest (terms_of_isPositive hs).2 (terms_of_isPositive ht).1 t
  have hexact : 0 ≤ exactTicks t source target := by
    have hS := toRat_pos hs
    have hT := toRat_pos ht
    have hnonneg : (0 : ℚ) ≤ t.toInt := by exact_mod_cast nonneg
    unfold exactTicks
    positivity
  have hz' : 0 ≤ z := (Nearest.self 0).mono hz (by exact_mod_cast hexact)
  rw [hrescale, toInt_saturated, Int64.toInt_minValue, Int64.toInt_maxValue]
  omega

/-- From `2 ^ 63 - 1` nanoseconds on, all durations count as that many. -/
theorem saturated_of_le {n : Nat} (long : 2 ^ 63 - 1 ≤ n) : saturated n = Int64.maxValue := by
  rw [← Int64.toInt_inj, toInt_saturated, Int64.toInt_minValue, Int64.toInt_maxValue]
  omega

/-- The ticks of a microsecond are rounded, and the microseconds of a frame are not: they differ by
one where half a microsecond or more is left over. -/
theorem toInt_ticks_sub_micros (t : CaptureTimestamp) (short : t.sinceStart.nanos < 2 ^ 63) :
    (microsecond.ticks t.sinceStart).toInt - t.micros.toNat =
      if 500 ≤ t.sinceStart.nanos % 1000 then 1 else 0 := by
  have hmicros : t.micros.toNat = t.sinceStart.nanos / 1000 := by
    show (UInt64.ofNat (t.sinceStart.nanos / 1000)).toNat = _
    rw [UInt64.toNat_ofNat_of_lt']
    simp only [UInt64.size]
    omega
  rw [toInt_ticks_microsecond, hmicros]
  split <;> omega

/-- In a positive base the ticks of a duration are calculated within 128 bits and are not negative.
A longer duration has no fewer of them, up to the ticks of `2 ^ 63 - 1` nanoseconds, which all
longer durations have. In microseconds, the ticks of the time since a frame's start are its
timestamp in microseconds or one more, and one more exactly if 500 nanoseconds or more are left
over, for any time below `2 ^ 63` nanoseconds. -/
theorem ticks_keep_order (positive : r.isPositive = true) :
    (∀ d : Duration, r.ticks? d = some (r.ticks d) ∧ 0 ≤ (r.ticks d).toInt ∧
      r.ticks d ≤ rescale Int64.maxValue nanosecond r ∧
      (2 ^ 63 - 1 ≤ d.nanos → r.ticks d = rescale Int64.maxValue nanosecond r)) ∧
    (∀ d d' : Duration, d.nanos ≤ d'.nanos → r.ticks d ≤ r.ticks d') ∧
    ∀ t : CaptureTimestamp, t.sinceStart.nanos < 2 ^ 63 →
      let ahead := (microsecond.ticks t.sinceStart).toInt - t.micros.toNat
      (ahead = 0 ∨ ahead = 1) ∧ (ahead = 1 ↔ 500 ≤ t.sinceStart.nanos % 1000) := by
  refine ⟨fun d => ⟨ticks?_eq_some r d, ?_, ?_, ?_⟩, fun d d' => ticks_mono positive, ?_⟩
  · have hnanos : 0 ≤ (saturated d.nanos).toInt := by
      rw [toInt_saturated, Int64.toInt_minValue, Int64.toInt_maxValue]
      omega
    rw [ticks_eq_rescale positive]
    exact rescale_nonneg rfl positive hnanos
  · rw [ticks_eq_rescale positive]
    exact rescale_mono rfl positive (Int64.le_iff_toInt_le.mpr (saturated d.nanos).toInt_le)
  · intro long
    rw [ticks_eq_rescale positive, saturated_of_le long]
  · intro t short ahead
    have hahead : ahead = if 500 ≤ t.sinceStart.nanos % 1000 then 1 else 0 :=
      toInt_ticks_sub_micros t short
    split at hahead <;> omega

/-- In a base of `1/90000` two seconds have 180000 ticks, and the longest duration has those of
`2 ^ 63 - 1` nanoseconds. Half a microsecond over is rounded up. -/
theorem ticks_keep_order_sample :
    let mpeg : Rational := ⟨1, 90000⟩
    let longest := Duration.ofSeconds UInt64.size 0
    mpeg.isPositive = true ∧ (Duration.ofSeconds 2 0).nanos ≤ longest.nanos ∧
      mpeg.ticks? (.ofSeconds 2 0) = some 180000 ∧
      mpeg.ticks (.ofSeconds 2 0) ≤ mpeg.ticks longest ∧
      mpeg.ticks longest = rescale Int64.maxValue nanosecond mpeg ∧
      (microsecond.ticks (.ofNanos 1500)).toInt -
        (CaptureTimestamp.mk ⟨1500⟩ (.ofNanos 1500)).micros.toNat = 1 := by
  intro mpeg longest
  have hpositive : mpeg.isPositive = true := rfl
  obtain ⟨hticks, hmono, hmicros⟩ := ticks_keep_order hpositive
  have hlonger : (Duration.ofSeconds 2 0).nanos ≤ longest.nanos := by decide
  have htwo : mpeg.ticks (.ofSeconds 2 0) = 180000 := by decide
  obtain ⟨hwide, -, -, -⟩ := hticks (.ofSeconds 2 0)
  obtain ⟨-, -, -, hlongest⟩ := hticks longest
  obtain ⟨-, hhalf⟩ := hmicros ⟨⟨1500⟩, .ofNanos 1500⟩ (by decide)
  rw [htwo] at hwide
  exact ⟨hpositive, hlonger, hwide, hmono _ _ hlonger, hlongest (by decide),
    hhalf.mpr (by decide)⟩

end Rational

end Framecast

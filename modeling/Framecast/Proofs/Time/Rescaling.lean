import Framecast.Proofs.Time.Nearest
import Framecast.Proofs.Time.Rational
import Framecast.Proofs.Time.Wide

/-!
# Rescaled timestamps

A timestamp in one base is an exact rational number of ticks of another (`exactTicks`). Rescaling
rounds that number to the nearest integer and cuts it off at the range of a timestamp
(`rescale_rounds`). The error is half a tick of the base that it is rescaled to, so that on the way
there and back half a tick of each base adds up (`round_trip`). Into a base that is as fine or finer
timestamps keep their order, up to where they are cut off (`rescale_climbs`).
-/

namespace Framecast

namespace Rational

/-- The fraction as a rational number. -/
def toRat (r : Rational) : ℚ := r.num.toInt / r.den.toInt

/-- The timestamp `ts`, given in base `source`, in base `target`: not rounded, and without a
bound. -/
def exactTicks (ts : Int64) (source target : Rational) : ℚ :=
  ts.toInt * source.toRat / target.toRat

/-- A rescaled timestamp is the integer nearest to the exact one, cut off at the range of a
timestamp. -/
theorem rescale_nearest {source target : Rational} (hs : source.den ≠ 0) (ht : target.num ≠ 0)
    (ts : Int64) :
    ∃ z, Nearest (exactTicks ts source target) z ∧ rescale ts source target = saturated z := by
  have hdivisor : source.den.toInt * target.num.toInt ≠ 0 :=
    mul_ne_zero (toInt_ne_zero hs) (toInt_ne_zero ht)
  refine ⟨_, ?_, if_neg (not_or.mpr ⟨hs, ht⟩)⟩
  have h := roundedQuotient_nearest (ts.toInt * source.num.toInt * target.den.toInt) hdivisor
  have hexact : exactTicks ts source target =
      ((ts.toInt * source.num.toInt * target.den.toInt : ℤ) : ℚ) /
        ((source.den.toInt * target.num.toInt : ℤ) : ℚ) := by
    unfold exactTicks toRat
    push_cast
    rw [div_div_eq_mul_div, mul_div_assoc', div_mul_eq_mul_div, div_div]
  rw [hexact]
  exact h

/-- A positive fraction. -/
theorem toRat_pos {r : Rational} (h : r.isPositive = true) : 0 < r.toRat := by
  unfold isPositive at h
  simp only [Bool.and_eq_true, decide_eq_true_eq, Int32.lt_iff_toInt_lt, Int32.toInt_zero] at h
  unfold toRat
  exact div_pos (by exact_mod_cast h.1) (by exact_mod_cast h.2)

/-- A positive fraction has no term that is zero. -/
theorem terms_of_isPositive {r : Rational} (h : r.isPositive = true) : r.num ≠ 0 ∧ r.den ≠ 0 := by
  unfold isPositive at h
  simp only [Bool.and_eq_true, decide_eq_true_eq, Int32.lt_iff_toInt_lt, Int32.toInt_zero] at h
  constructor
  · rintro hnum
    rw [hnum] at h
    exact absurd h.1 (by decide)
  · rintro hden
    rw [hden] at h
    exact absurd h.2 (by decide)

/-- In positive bases a later timestamp is exactly later. -/
theorem exactTicks_mono {source target : Rational} (hs : source.isPositive = true)
    (ht : target.isPositive = true) {t u : Int64} (h : t ≤ u) :
    exactTicks t source target ≤ exactTicks u source target := by
  have hle : (t.toInt : ℚ) ≤ u.toInt := by exact_mod_cast Int64.le_iff_toInt_le.mp h
  unfold exactTicks
  gcongr
  · exact (toRat_pos ht).le
  · exact (toRat_pos hs).le

/-- Cutting off keeps the order. -/
theorem saturated_mono {y z : ℤ} (h : y ≤ z) : saturated y ≤ saturated z := by
  rw [Int64.le_iff_toInt_le, toInt_saturated, toInt_saturated]
  omega

/-- In positive bases a later timestamp is not rescaled to an earlier one. -/
theorem rescale_mono {source target : Rational} (hs : source.isPositive = true)
    (ht : target.isPositive = true) {t u : Int64} (h : t ≤ u) :
    rescale t source target ≤ rescale u source target := by
  have hden := (terms_of_isPositive hs).2
  have hnum := (terms_of_isPositive ht).1
  obtain ⟨y, hy, hrescale⟩ := rescale_nearest hden hnum t
  obtain ⟨z, hz, hrescale'⟩ := rescale_nearest hden hnum u
  rw [hrescale, hrescale']
  exact saturated_mono (hy.mono hz (exactTicks_mono hs ht h))

/-- A rescaled timestamp is the exact one, rounded to the nearest integer with ties away from zero
and cut off at the range of a timestamp, and no step of the calculation leaves 128 bits or divides
by zero. In positive bases a later timestamp is not rescaled to an earlier one. -/
theorem rescale_rounds {source target : Rational} (hs : source.den ≠ 0) (ht : target.num ≠ 0) :
    (∀ ts, rescale? ts source target = some (rescale ts source target) ∧
      ∃ z, Nearest (exactTicks ts source target) z ∧
        (rescale ts source target).toInt =
          max Int64.minValue.toInt (min z Int64.maxValue.toInt)) ∧
    (source.isPositive = true → target.isPositive = true →
      ∀ t u, t ≤ u → rescale t source target ≤ rescale u source target) := by
  constructor
  · intro ts
    obtain ⟨z, hz, hrescale⟩ := rescale_nearest hs ht ts
    exact ⟨rescale?_eq_some ts source target, z, hz, by rw [hrescale, toInt_saturated]⟩
  · intro hsource htarget t u h
    exact rescale_mono hsource htarget h

/-- Of two timestamps, the first a tie between two ticks, in bases of either sign. -/
theorem rescale_rounds_sample :
    let source : Rational := ⟨-1, 1000000⟩
    let target : Rational := ⟨1, -1000⟩
    let milli : Rational := ⟨1, 1000⟩
    source.den ≠ 0 ∧ target.num ≠ 0 ∧
      rescale? (-1500) source target = some (-2) ∧
      (∃ z, Nearest (exactTicks (-1500) source target) z ∧
        -2 = max Int64.minValue.toInt (min z Int64.maxValue.toInt)) ∧
      (rescale 1499 .microsecond milli, rescale 1500 .microsecond milli) = (1, 2) ∧
      rescale 1499 .microsecond milli ≤ rescale 1500 .microsecond milli := by
  intro source target milli
  have hs : source.den ≠ 0 := by decide
  have ht : target.num ≠ 0 := by decide
  obtain ⟨hrounds, -⟩ := rescale_rounds hs ht
  have htie : rescale (-1500) source target = -2 := by decide
  obtain ⟨hwide, z, hz, hvalue⟩ := hrounds (-1500)
  rw [htie] at hwide hvalue
  have hs' : microsecond.den ≠ 0 := by decide
  have ht' : milli.num ≠ 0 := by decide
  obtain ⟨-, hmono⟩ := rescale_rounds hs' ht'
  exact ⟨hs, ht, hwide, ⟨z, hz, hvalue⟩, by decide, hmono rfl rfl 1499 1500 (by decide)⟩

/-! ## There and back -/

/-- A timestamp is the integer nearest to this number. -/
def Fits (q : ℚ) : Prop := ∃ t : Int64, Nearest q t.toInt

/-- What lies within the range of a timestamp fits. -/
theorem fits_of_range {q : ℚ} (lower : -2 ^ 63 ≤ q) (upper : q ≤ 2 ^ 63 - 1) : Fits q := by
  have hnearest := roundedQuotient_nearest q.num (d := q.den) (by exact_mod_cast q.den_ne_zero)
  generalize roundedQuotient q.num q.den = z at hnearest
  have hq : ((q.num : ℤ) : ℚ) / ((q.den : ℤ) : ℚ) = q := by exact_mod_cast q.num_div_den
  rw [hq] at hnearest
  have hlower := (Nearest.self (-2 ^ 63)).mono hnearest (by exact_mod_cast lower)
  have hupper := hnearest.mono (Nearest.self (2 ^ 63 - 1)) (by exact_mod_cast upper)
  refine ⟨Int64.ofInt z, ?_⟩
  rw [Int64.toInt_ofInt_of_le (by omega) (by omega)]
  exact hnearest

/-- A timestamp is not cut off. -/
theorem saturated_toInt (t : Int64) : saturated t.toInt = t := by
  have hlower := t.le_toInt
  have hupper := t.toInt_lt
  rw [← Int64.toInt_inj, toInt_saturated, Int64.toInt_minValue, Int64.toInt_maxValue]
  omega

/-- Where the exact timestamp fits, nothing is cut off. -/
theorem nearest_of_fits {source target : Rational} (hs : source.den ≠ 0) (ht : target.num ≠ 0)
    {ts : Int64} (fits : Fits (exactTicks ts source target)) :
    Nearest (exactTicks ts source target) (rescale ts source target).toInt := by
  obtain ⟨t, hnearest⟩ := fits
  obtain ⟨z, hz, hrescale⟩ := rescale_nearest hs ht ts
  obtain rfl := hz.unique hnearest
  rw [hrescale, saturated_toInt]
  exact hnearest

/-- Cutting off brings no integer farther from a timestamp. -/
theorem abs_saturated_sub_le (z : ℤ) (ts : Int64) :
    |(saturated z).toInt - ts.toInt| ≤ |z - ts.toInt| := by
  have hlower := ts.le_toInt
  have hupper := ts.toInt_lt
  rw [toInt_saturated, Int64.toInt_minValue, Int64.toInt_maxValue, Int.abs_eq_natAbs,
    Int.abs_eq_natAbs]
  omega

/-- In bases with ticks of the same length a timestamp counts the same ticks. -/
theorem exactTicks_of_toRat_eq {a b : Rational} (ha : a.isPositive = true)
    (same : b.toRat = a.toRat) (ts : Int64) : exactTicks ts a b = ts.toInt := by
  unfold exactTicks
  rw [same]
  exact mul_div_cancel_right₀ _ (toRat_pos ha).ne'

/-- There is nothing to round then. -/
theorem rescale_of_toRat_eq {a b : Rational} (ha : a.isPositive = true) (hb : b.isPositive = true)
    (same : b.toRat = a.toRat) (ts : Int64) : rescale ts a b = ts := by
  obtain ⟨z, hz, hrescale⟩ :=
    rescale_nearest (terms_of_isPositive ha).2 (terms_of_isPositive hb).1 ts
  rw [exactTicks_of_toRat_eq ha same] at hz
  obtain rfl := hz.unique (.self _)
  rw [hrescale, saturated_toInt]

/-- On the way there the error is half a tick of the one base at most, and on the way back half a
tick of the other. -/
theorem there_and_back_error {a b : Rational} (ha : 0 < a.toRat) (hb : 0 < b.toRat)
    {ts there : Int64} {back : ℤ} (hthere : Nearest (exactTicks ts a b) there.toInt)
    (hback : Nearest (exactTicks there b a) back) :
    |(back : ℚ) - ts.toInt| * a.toRat ≤ a.toRat / 2 + b.toRat / 2 := by
  have hto : exactTicks ts a b * b.toRat = ts.toInt * a.toRat := div_mul_cancel₀ _ hb.ne'
  have hfro : exactTicks there b a * a.toRat = there.toInt * b.toRat := div_mul_cancel₀ _ ha.ne'
  have hsum : ((back : ℚ) - ts.toInt) * a.toRat = (back - exactTicks there b a) * a.toRat +
      (there.toInt - exactTicks ts a b) * b.toRat := by
    linear_combination hfro + hto
  calc |(back : ℚ) - ts.toInt| * a.toRat = |((back : ℚ) - ts.toInt) * a.toRat| := by
        rw [abs_mul, abs_of_pos ha]
    _ ≤ |(back - exactTicks there b a) * a.toRat| +
        |(there.toInt - exactTicks ts a b) * b.toRat| := by
        rw [hsum]
        exact abs_add_le _ _
    _ ≤ a.toRat / 2 + b.toRat / 2 :=
        add_le_add (hback.abs_sub_mul_le ha) (hthere.abs_sub_mul_le hb)

/-- A timestamp that is rescaled and rescaled back comes back to within one tick of the coarser
base, where the exact timestamp fits; and it comes back exactly if the other base is as fine or
finer. On the way back it may be cut off, which only brings it nearer. -/
theorem round_trip {a b : Rational} (ha : a.isPositive = true) (hb : b.isPositive = true)
    {ts : Int64} (fits : Fits (exactTicks ts a b)) :
    let back := rescale (rescale ts a b) b a
    |(back.toInt : ℚ) - ts.toInt| * a.toRat ≤ max a.toRat b.toRat ∧
      (b.toRat ≤ a.toRat → back = ts) := by
  intro back
  obtain ⟨hanum, haden⟩ := terms_of_isPositive ha
  obtain ⟨hbnum, hbden⟩ := terms_of_isPositive hb
  have hA := toRat_pos ha
  have hB := toRat_pos hb
  have hthere := nearest_of_fits haden hbnum fits
  obtain ⟨z, hz, hback⟩ := rescale_nearest hbden hanum (rescale ts a b)
  have hcut : back = saturated z := hback
  have herror := there_and_back_error hA hB hthere hz
  constructor
  · have hnearer : |(back.toInt : ℚ) - ts.toInt| ≤ |(z : ℚ) - ts.toInt| := by
      rw [hcut]
      exact_mod_cast abs_saturated_sub_le z ts
    -- Each way costs half a tick of the base that it leads to at most.
    have hmax : a.toRat / 2 + b.toRat / 2 ≤ max a.toRat b.toRat := by
      have hleft := le_max_left a.toRat b.toRat
      have hright := le_max_right a.toRat b.toRat
      linarith
    exact (mul_le_mul_of_nonneg_right hnearer hA.le).trans (herror.trans hmax)
  · intro hfine
    rcases hfine.lt_or_eq with hfiner | hsame
    · -- The two errors together are less than a tick.
      have hless : |(z : ℚ) - ts.toInt| < 1 := by
        apply lt_of_mul_lt_mul_right _ hA.le
        linarith
      have hless' : |z - ts.toInt| < 1 := by exact_mod_cast hless
      have hz' : z = ts.toInt := sub_eq_zero.mp (Int.abs_lt_one_iff.mp hless')
      rw [hcut, hz', saturated_toInt]
    · show rescale (rescale ts a b) b a = ts
      rw [rescale_of_toRat_eq ha hb hsame, rescale_of_toRat_eq hb ha hsame.symm]

/-- Seven microseconds are rounded to one tick of `1/90000`, which is eleven microseconds; and a
time in milliseconds comes back from microseconds as it was. -/
theorem round_trip_sample :
    let mpeg : Rational := ⟨1, 90000⟩
    let milli : Rational := ⟨1, 1000⟩
    Fits (exactTicks 7 .microsecond mpeg) ∧
      rescale (rescale 7 .microsecond mpeg) mpeg .microsecond = 11 ∧
      |((11 : Int64).toInt : ℚ) - (7 : Int64).toInt| * microsecond.toRat ≤
        max microsecond.toRat mpeg.toRat ∧
      Fits (exactTicks (-98765) milli .microsecond) ∧
      rescale (rescale (-98765) milli .microsecond) .microsecond milli = -98765 := by
  intro mpeg milli
  have hmicro : microsecond.toRat = 1 / 1000000 := rfl
  have hmpeg : mpeg.toRat = 1 / 90000 := rfl
  have hmilli : milli.toRat = 1 / 1000 := rfl
  have hcoarse : exactTicks 7 .microsecond mpeg = 63 / 100 := by
    have hseven : (7 : Int64).toInt = 7 := by decide
    unfold exactTicks
    rw [hseven, hmicro, hmpeg]
    norm_num
  have hfine : exactTicks (-98765) milli .microsecond = -98765000 := by
    have hts : (-98765 : Int64).toInt = -98765 := by decide
    unfold exactTicks
    rw [hts, hmilli, hmicro]
    norm_num
  have hfits : Fits (exactTicks 7 .microsecond mpeg) := by
    rw [hcoarse]
    apply fits_of_range <;> norm_num
  have hfits' : Fits (exactTicks (-98765) milli .microsecond) := by
    rw [hfine]
    apply fits_of_range <;> norm_num
  have hback : rescale (rescale 7 .microsecond mpeg) mpeg .microsecond = 11 := by decide
  obtain ⟨hnear, -⟩ := round_trip (a := .microsecond) (b := mpeg) rfl rfl hfits
  obtain ⟨-, hexact⟩ := round_trip (a := milli) (b := .microsecond) rfl rfl hfits'
  rw [hback] at hnear
  exact ⟨hfits, hback, hnear, hfits', hexact (by rw [hmicro, hmilli]; norm_num)⟩

/-! ## The order of timestamps -/

/-- Into a base that is as fine or finer, a later timestamp has a later nearest tick. -/
theorem rescale_climbs {source target : Rational} (hs : source.isPositive = true)
    (ht : target.isPositive = true) (fine : target.toRat ≤ source.toRat) {t u : Int64}
    (nonneg : 0 ≤ t.toInt) (h : t < u) :
    ∃ y z, Nearest (exactTicks u source target) z ∧ 0 ≤ y ∧ y < z ∧
      rescale t source target = saturated y ∧ rescale u source target = saturated z := by
  have hS := toRat_pos hs
  have hT := toRat_pos ht
  obtain ⟨y, hy, hrescale⟩ :=
    rescale_nearest (terms_of_isPositive hs).2 (terms_of_isPositive ht).1 t
  obtain ⟨z, hz, hrescale'⟩ :=
    rescale_nearest (terms_of_isPositive hs).2 (terms_of_isPositive ht).1 u
  have hzero : 0 ≤ exactTicks t source target := by
    have hnonneg : (0 : ℚ) ≤ t.toInt := by exact_mod_cast nonneg
    unfold exactTicks
    positivity
  have hstep : exactTicks t source target + 1 ≤ exactTicks u source target := by
    have hlater : (t.toInt : ℚ) + 1 ≤ u.toInt := by exact_mod_cast Int64.lt_iff_toInt_lt.mp h
    have hratio : 1 ≤ source.toRat / target.toRat := (one_le_div hT).mpr fine
    unfold exactTicks
    calc (t.toInt : ℚ) * source.toRat / target.toRat + 1
        ≤ t.toInt * source.toRat / target.toRat + source.toRat / target.toRat := by linarith
      _ = (t.toInt + 1) * source.toRat / target.toRat := by ring
      _ ≤ u.toInt * source.toRat / target.toRat := by gcongr
  exact ⟨y, z, hz, (Nearest.self 0).mono hy (by exact_mod_cast hzero), hy.lt hz hstep, hrescale,
    hrescale'⟩

end Rational

end Framecast

import Mathlib
import Framecast.Time.Rational

/-!
# Rescaling in 128 bits

`rescale` multiplies and divides integers without a bound. `rescale?` makes the same calculation in
integers of 128 bits, step by step, and has no result where a product, a sum, a negation or a
quotient does not fit, or a divisor is zero. It always has one, and it is that of `rescale`
(`rescale?_eq_some`): a timestamp has 64 bits and the terms of a time base 32, so that the products
stay within `2 ^ 125`, and what is added to them within `2 ^ 61`.
-/

namespace Framecast

/-- An integer of 128 bits. -/
structure Wide where
  /-- The integer. -/
  val : Int
  /-- It is not too small. -/
  lower : -2 ^ 127 ≤ val
  /-- It is not too great. -/
  upper : val < 2 ^ 127
deriving DecidableEq

namespace Wide

/-- The integer in 128 bits, if it fits. -/
def ofInt? (z : Int) : Option Wide :=
  if h : -2 ^ 127 ≤ z ∧ z < 2 ^ 127 then some ⟨z, h.1, h.2⟩ else none

/-- A timestamp in 128 bits. -/
def ofInt64 (t : Int64) : Wide :=
  ⟨t.toInt, by have := t.le_toInt; omega, by have := t.toInt_lt; omega⟩

/-- A term of a time base in 128 bits. -/
def ofInt32 (t : Int32) : Wide :=
  ⟨t.toInt, by have := t.le_toInt; omega, by have := t.toInt_lt; omega⟩

/-- Two in 128 bits. -/
def two : Wide := ⟨2, by decide, by decide⟩

/-- The product, if it fits. -/
def mul? (a b : Wide) : Option Wide := ofInt? (a.val * b.val)

/-- The sum, if it fits. -/
def add? (a b : Wide) : Option Wide := ofInt? (a.val + b.val)

/-- The opposite, if it fits: the least integer has none. -/
def neg? (a : Wide) : Option Wide := ofInt? (-a.val)

/-- The quotient toward zero, if there is one and it fits. -/
def div? (a b : Wide) : Option Wide := if b.val = 0 then none else ofInt? (a.val.tdiv b.val)

/-- The quotient by a positive number to the nearest integer, a tie going away from zero: half the
divisor is added to the size of the dividend. -/
def roundedShare? (n d : Wide) : Option Wide := do
  let half ← d.div? two
  if 0 ≤ n.val then (← n.add? half).div? d
  else (← (← (← n.neg?).add? half).div? d).neg?

/-- The quotient to the nearest integer, a tie going away from zero. -/
def roundedQuotient? (n d : Wide) : Option Wide := do
  if d.val < 0 then (← n.neg?).roundedShare? (← d.neg?) else n.roundedShare? d

variable {a b n d : Wide}

/-- An integer whose size is below `2 ^ 127` fits. -/
theorem ofInt?_eq_some {z : Int} (h : |z| < 2 ^ 127) : ∃ w, ofInt? z = some w ∧ w.val = z := by
  obtain ⟨hlower, hupper⟩ := abs_lt.mp h
  exact ⟨⟨z, hlower.le, hupper⟩, dif_pos ⟨hlower.le, hupper⟩, rfl⟩

/-- A quotient of a number that is not negative by a positive one fits. -/
theorem div?_eq_some (ha : 0 ≤ a.val) (hb : 0 < b.val) :
    ∃ w, a.div? b = some w ∧ w.val = a.val / b.val := by
  have hnonneg : 0 ≤ a.val / b.val := Int.ediv_nonneg ha hb.le
  have hle : a.val / b.val ≤ a.val := Int.ediv_le_self _ ha
  have hupper := a.upper
  obtain ⟨w, hw, hval⟩ := ofInt?_eq_some (z := a.val / b.val) (by rw [abs_lt]; omega)
  refine ⟨w, ?_, hval⟩
  unfold div?
  rw [if_neg hb.ne', Int.tdiv_eq_ediv_of_nonneg ha]
  exact hw

/-- An integer whose opposite fits. -/
theorem neg?_eq_some (h : |a.val| < 2 ^ 127) : ∃ w, a.neg? = some w ∧ w.val = -a.val :=
  ofInt?_eq_some ((abs_neg _).trans_lt h)

/-- The quotient of a number that is not negative, with half the divisor added, fits. -/
theorem add?_div?_eq_some {half : Wide} (hn : 0 ≤ n.val) (hn' : n.val ≤ 2 ^ 125) (hd : 0 < d.val)
    (hd' : d.val ≤ 2 ^ 62) (hhalf : half.val = d.val / 2) :
    ∃ w, (n.add? half).bind (·.div? d) = some w ∧ w.val = (n.val + d.val / 2) / d.val := by
  obtain ⟨sum, hsum, hsumval⟩ : ∃ w, n.add? half = some w ∧ w.val = n.val + half.val :=
    ofInt?_eq_some (by rw [abs_lt]; omega)
  obtain ⟨w, hw, hval⟩ := div?_eq_some (a := sum) (b := d) (by omega) hd
  refine ⟨w, ?_, ?_⟩
  · rw [hsum]
    exact hw
  · rw [hval, hsumval, hhalf]

/-- No step of rounding a quotient by a positive number leaves 128 bits. -/
theorem roundedShare?_eq_some (hn : |n.val| ≤ 2 ^ 125) (hd : 0 < d.val) (hd' : d.val ≤ 2 ^ 62) :
    ∃ w, n.roundedShare? d = some w ∧ w.val = roundedQuotient n.val d.val := by
  rw [abs_le] at hn
  obtain ⟨half, hhalf, hhalfval⟩ := div?_eq_some (a := d) (b := two) hd.le (by decide)
  have hd'' : ¬ d.val < 0 := by omega
  by_cases hsign : 0 ≤ n.val
  · obtain ⟨w, hw, hval⟩ := add?_div?_eq_some hsign hn.2 hd hd' hhalfval
    refine ⟨w, ?_, ?_⟩
    · show (d.div? two).bind _ = some w
      rw [hhalf, Option.bind_some, if_pos hsign]
      exact hw
    · rw [hval]
      simp only [roundedQuotient, hd'', if_false, hsign, if_true]
  · obtain ⟨m, hm, hmval⟩ := neg?_eq_some (a := n) (by rw [abs_lt]; omega)
    obtain ⟨q, hq, hqval⟩ := add?_div?_eq_some (n := m) (by omega) (by omega) hd hd' hhalfval
    have hqle : q.val ≤ m.val + d.val / 2 := by
      rw [hqval]
      exact Int.ediv_le_self _ (by omega)
    have hqnonneg : 0 ≤ q.val := by
      rw [hqval]
      exact Int.ediv_nonneg (by omega) hd.le
    obtain ⟨w, hw, hval⟩ := neg?_eq_some (a := q) (by rw [abs_lt]; omega)
    refine ⟨w, ?_, ?_⟩
    · show (d.div? two).bind _ = some w
      rw [hhalf, Option.bind_some, if_neg hsign, hm]
      show (m.add? half).bind (fun sum => (sum.div? d).bind neg?) = some w
      rw [← Option.bind_assoc, hq]
      exact hw
    · rw [hval, hqval, hmval]
      simp only [roundedQuotient, hd'', if_false, hsign]

/-- No step of rounding a quotient leaves 128 bits where its terms are those of a timestamp that is
rescaled, and its divisor is not zero. -/
theorem roundedQuotient?_eq_some (hn : |n.val| ≤ 2 ^ 125) (hd : |d.val| ≤ 2 ^ 62)
    (hzero : d.val ≠ 0) :
    ∃ w, n.roundedQuotient? d = some w ∧ w.val = roundedQuotient n.val d.val := by
  rw [abs_le] at hd
  unfold roundedQuotient?
  by_cases hsign : d.val < 0
  · -- Both terms change their sign, as they do in `roundedQuotient`.
    obtain ⟨n', hn', hnval⟩ := neg?_eq_some (a := n) (hn.trans_lt (by norm_num))
    obtain ⟨d', hd', hdval⟩ := neg?_eq_some (a := d) (by rw [abs_lt]; omega)
    obtain ⟨w, hw, hval⟩ := roundedShare?_eq_some (n := n') (d := d')
      (by rw [hnval, abs_neg]; exact hn) (by omega) (by omega)
    refine ⟨w, ?_, ?_⟩
    · rw [if_pos hsign, hn', hd']
      exact hw
    · have hpos : ¬ -d.val < 0 := by omega
      rw [hval, hnval, hdval]
      simp only [roundedQuotient, hsign, hpos, if_true, if_false]
  · rw [if_neg hsign]
    exact roundedShare?_eq_some hn (by omega) hd.2

end Wide

namespace Rational

/-- The timestamp `ts`, given in base `source`, in base `target`, calculated in 128 bits. -/
def rescale? (ts : Int64) (source target : Rational) : Option Int64 :=
  if source.den = 0 ∨ target.num = 0 then some ts
  else do
    let scaled ← (Wide.ofInt64 ts).mul? (.ofInt32 source.num)
    let n ← scaled.mul? (.ofInt32 target.den)
    let d ← (Wide.ofInt32 source.den).mul? (.ofInt32 target.num)
    let q ← n.roundedQuotient? d
    return saturated q.val

/-- The size of a product of two numbers is bounded by the product of the bounds. -/
theorem abs_mul_le {x y m k : Int} (hx : |x| ≤ m) (hy : |y| ≤ k) : |x * y| ≤ m * k := by
  rw [abs_mul]
  exact mul_le_mul hx hy (abs_nonneg y) ((abs_nonneg x).trans hx)

/-- The size of a term of a time base. -/
theorem abs_toInt_le (t : Int32) : |t.toInt| ≤ 2 ^ 31 := by
  have hlower := t.le_toInt
  have hupper := t.toInt_lt
  rw [abs_le]
  omega

/-- Only the term zero is the integer zero. -/
theorem toInt_ne_zero {t : Int32} (h : t ≠ 0) : t.toInt ≠ 0 :=
  fun hzero => h (Int32.toInt_inj.mp (hzero.trans Int32.toInt_zero.symm))

/-- Rescaling in 128 bits has a result, and it is that of rescaling without a bound. -/
theorem rescale?_eq_some (ts : Int64) (source target : Rational) :
    rescale? ts source target = some (rescale ts source target) := by
  unfold rescale? rescale
  by_cases hzero : source.den = 0 ∨ target.num = 0
  · rw [if_pos hzero, if_pos hzero]
  · rw [if_neg hzero, if_neg hzero]
    -- A time of 64 bits, times two terms of 32 bits, is well within 128 bits.
    have hts : |ts.toInt| ≤ 2 ^ 63 := by
      have hlower := ts.le_toInt
      have hupper := ts.toInt_lt
      rw [abs_le]
      omega
    have hscaled := abs_mul_le hts (abs_toInt_le source.num)
    have hproduct := abs_mul_le hscaled (abs_toInt_le target.den)
    have hdivisor := abs_mul_le (abs_toInt_le source.den) (abs_toInt_le target.num)
    obtain ⟨scaled, hs, hsval⟩ : ∃ w, (Wide.ofInt64 ts).mul? (.ofInt32 source.num) = some w ∧
        w.val = ts.toInt * source.num.toInt := Wide.ofInt?_eq_some (hscaled.trans_lt (by norm_num))
    obtain ⟨n, hn, hnval⟩ : ∃ w, scaled.mul? (.ofInt32 target.den) = some w ∧
        w.val = scaled.val * target.den.toInt :=
      Wide.ofInt?_eq_some (by rw [hsval]; exact hproduct.trans_lt (by norm_num))
    obtain ⟨d, hd, hdval⟩ : ∃ w, (Wide.ofInt32 source.den).mul? (.ofInt32 target.num) = some w ∧
        w.val = source.den.toInt * target.num.toInt :=
      Wide.ofInt?_eq_some (hdivisor.trans_lt (by norm_num))
    obtain ⟨hden, hnum⟩ := not_or.mp hzero
    have hdne : d.val ≠ 0 := by
      rw [hdval]
      exact mul_ne_zero (toInt_ne_zero hden) (toInt_ne_zero hnum)
    obtain ⟨q, hq, hqval⟩ := Wide.roundedQuotient?_eq_some (n := n) (d := d)
      (by rw [hnval, hsval]; exact hproduct) (by rw [hdval]; exact hdivisor) hdne
    -- The steps of the checked rescaling, one after the other.
    show ((Wide.ofInt64 ts).mul? (.ofInt32 source.num)).bind _ = _
    rw [hs, Option.bind_some]
    show (scaled.mul? (.ofInt32 target.den)).bind _ = _
    rw [hn, Option.bind_some]
    show ((Wide.ofInt32 source.den).mul? (.ofInt32 target.num)).bind _ = _
    rw [hd, Option.bind_some]
    show (n.roundedQuotient? d).bind _ = _
    rw [hq, Option.bind_some, hqval, hnval, hsval, hdval]
    rfl

end Rational

end Framecast

import Mathlib
import Framecast.Time.Rational

/-!
# Rounding to the nearest integer

`Nearest q z` says that `z` is the integer nearest to the rational number `q`, and the one farther
from zero where two are as near. There is one such integer (`Nearest.unique`), a greater number
never has a smaller one (`Nearest.mono`), and numbers at least one apart have different ones
(`Nearest.lt`). A rounded quotient is the integer nearest to the quotient, whatever the signs of its
terms (`roundedQuotient_nearest`).
-/

namespace Framecast

/-- An integer is nearest to a number; halfway between two integers it is the one farther from
zero. -/
structure Nearest (q : ℚ) (z : ℤ) : Prop where
  /-- No integer is nearer. -/
  close : |q - z| ≤ 1 / 2
  /-- Of two that are as near, it is the one farther from zero. -/
  away : |q - z| = 1 / 2 → |q| < |(z : ℚ)|

namespace Nearest

variable {q r : ℚ} {y z : ℤ}

/-- The integer above a number halfway between two of them is nearest only if it is positive. -/
theorem pos_of_half (h : Nearest q z) (half : q = z - 1 / 2) : 0 < z := by
  have haway := h.away (by rw [half]; norm_num)
  by_contra hz
  have hz' : (z : ℚ) ≤ 0 := by exact_mod_cast not_lt.mp hz
  rw [half, abs_of_nonpos (by linarith), abs_of_nonpos hz'] at haway
  linarith

/-- The integer below a number halfway between two of them is nearest only if it is negative. -/
theorem neg_of_half (h : Nearest q z) (half : q = z + 1 / 2) : z < 0 := by
  have haway := h.away (by rw [half]; norm_num)
  by_contra hz
  have hz' : (0 : ℚ) ≤ z := by exact_mod_cast not_lt.mp hz
  rw [half, abs_of_nonneg (by linarith), abs_of_nonneg hz'] at haway
  linarith

/-- Of a greater number the nearest integer is not less. -/
theorem mono (hy : Nearest q y) (hz : Nearest r z) (h : q ≤ r) : y ≤ z := by
  by_contra hlt
  have hlt' : (z : ℚ) + 1 ≤ y := by exact_mod_cast not_le.mp hlt
  obtain ⟨hq, -⟩ := abs_le.mp hy.close
  obtain ⟨-, hr⟩ := abs_le.mp hz.close
  -- Both numbers are then halfway between the two integers, of which neither is farther from zero.
  have hle : y ≤ z + 1 := by
    have hle' : (y : ℚ) ≤ z + 1 := by linarith
    exact_mod_cast hle'
  have hpos := hy.pos_of_half (by linarith)
  have hneg := hz.neg_of_half (by linarith)
  omega

/-- There is one nearest integer. -/
theorem unique (hy : Nearest q y) (hz : Nearest q z) : y = z :=
  le_antisymm (hy.mono hz le_rfl) (hz.mono hy le_rfl)

/-- Of a number that is greater by at least one the nearest integer is greater. -/
theorem lt (hy : Nearest q y) (hz : Nearest r z) (h : q + 1 ≤ r) : y < z := by
  obtain ⟨hq, -⟩ := abs_le.mp hy.close
  obtain ⟨-, hr⟩ := abs_le.mp hz.close
  have hle : y ≤ z := hy.mono hz (by linarith)
  refine lt_of_le_of_ne hle ?_
  rintro rfl
  -- One number is then half below the integer and the other half above.
  have hpos := hy.pos_of_half (by linarith)
  have hneg := hz.neg_of_half (by linarith)
  omega

/-- An integer is nearest to any number less than half away from it. -/
theorem of_lt (h : |q - z| < 1 / 2) : Nearest q z :=
  ⟨h.le, fun half => absurd half h.ne⟩

/-- An integer is nearest to itself. -/
theorem self (z : ℤ) : Nearest z z := of_lt (by norm_num)

/-- The nearest integer of the opposite is the opposite. -/
theorem neg (h : Nearest q z) : Nearest (-q) (-z) := by
  have hdist : |-q - ((-z : ℤ) : ℚ)| = |q - z| := by
    rw [← abs_neg]
    congr 1
    push_cast
    ring
  refine ⟨hdist.trans_le h.close, fun half => ?_⟩
  have haway := h.away (hdist.symm.trans half)
  rw [abs_neg]
  push_cast
  rw [abs_neg]
  exact haway

/-- The nearest integer is off by half a tick at most, however long a tick is. -/
theorem abs_sub_mul_le (h : Nearest q z) {tick : ℚ} (htick : 0 < tick) :
    |(z - q) * tick| ≤ tick / 2 := by
  have hclose := h.close
  rw [abs_sub_comm] at hclose
  rw [abs_mul, abs_of_pos htick]
  calc |(z : ℚ) - q| * tick ≤ 1 / 2 * tick := mul_le_mul_of_nonneg_right hclose htick.le
    _ = tick / 2 := by ring

end Nearest

/-- The floor of a quotient that is not negative, moved up by half, is nearest to the quotient. -/
theorem nearest_halfUp {n d : ℤ} (hn : 0 ≤ n) (hd : 0 < d) :
    Nearest ((n : ℚ) / d) ((n + d / 2) / d) := by
  have hsplit := Int.mul_ediv_add_emod (n + d / 2) d
  have hrem := Int.emod_nonneg (n + d / 2) hd.ne'
  have hrem' := Int.emod_lt_of_pos (n + d / 2) hd
  generalize (n + d / 2) / d = m at hsplit
  have hd' : (0 : ℚ) < d := by exact_mod_cast hd
  -- The remainder lies between half the divisor below and less than half above.
  have hlower : d * (-1) ≤ 2 * (n - d * m) := by omega
  have hupper : 2 * (n - d * m) < d * 1 := by omega
  have hnonneg : (0 : ℚ) ≤ n / d := div_nonneg (by exact_mod_cast hn) hd'.le
  have hquotient : (n : ℚ) = d * (n / d) := (mul_div_cancel₀ _ hd'.ne').symm
  generalize (n : ℚ) / d = q at hnonneg hquotient
  have hscale : ((2 * (n - d * m) : ℤ) : ℚ) = d * (2 * (q - m)) := by
    push_cast
    rw [hquotient]
    ring
  have hbelow : -1 ≤ 2 * (q - m) := by
    apply le_of_mul_le_mul_left _ hd'
    rw [← hscale]
    exact_mod_cast hlower
  have habove : 2 * (q - m) < 1 := by
    apply lt_of_mul_lt_mul_left _ hd'.le
    rw [← hscale]
    exact_mod_cast hupper
  refine ⟨abs_le.mpr ⟨by linarith, by linarith⟩, fun half => ?_⟩
  rcases (abs_eq (by norm_num)).mp half with h | h
  · linarith
  · calc |q| = q := abs_of_nonneg hnonneg
      _ < m := by linarith
      _ ≤ |(m : ℚ)| := le_abs_self _

/-- A rounded quotient is the integer nearest to the quotient. -/
theorem roundedQuotient_nearest (n : ℤ) {d : ℤ} (hd : d ≠ 0) :
    Nearest ((n : ℚ) / d) (roundedQuotient n d) := by
  have hpositive : ∀ n d : ℤ, 0 < d →
      Nearest ((n : ℚ) / d) (if 0 ≤ n then (n + d / 2) / d else -((-n + d / 2) / d)) := by
    intro n d hd
    split
    · rename_i hn
      exact nearest_halfUp hn hd
    · rename_i hn
      have h := (nearest_halfUp (n := -n) (by omega) hd).neg
      push_cast at h
      rwa [neg_div, neg_neg] at h
  unfold roundedQuotient
  by_cases hsign : d < 0
  · have h := hpositive (-n) (-d) (by omega)
    push_cast at h
    rw [neg_div_neg_eq] at h
    simpa only [hsign, if_true] using h
  · simpa only [hsign, if_false] using hpositive n d (by omega)

/-- The quotient of zero is zero. -/
theorem roundedQuotient_zero {d : ℤ} (hd : d ≠ 0) : roundedQuotient 0 d = 0 := by
  have hnearest := roundedQuotient_nearest 0 hd
  rw [Int.cast_zero, zero_div] at hnearest
  exact hnearest.unique (by exact_mod_cast Nearest.self 0)

end Framecast

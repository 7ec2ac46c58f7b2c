import Mathlib
import Framecast.Time.Rational

/-!
# Ticks of a duration

A timestamp saturates at its range, and so do the ticks of a duration, before they are counted: in
microseconds there are fewer than `2^54` of them, however long the duration is.
-/

namespace Framecast

/-- The timestamp nearest to an integer is the integer, cut off at the range of a timestamp. -/
theorem toInt_saturated (z : Int) :
    (saturated z).toInt = max Int64.minValue.toInt (min z Int64.maxValue.toInt) := by
  unfold saturated
  rw [Int64.toInt_minValue, Int64.toInt_maxValue]
  exact Int64.toInt_ofInt_of_le (by omega) (by omega)

/-- A rounded quotient by a positive number is the floor of the quotient, moved up by half. -/
theorem roundedQuotient_of_nonneg {n d : Int} (hn : 0 ≤ n) (hd : 0 < d) :
    roundedQuotient n d = (n + d / 2) / d := by
  have hd' : ¬ d < 0 := by omega
  simp [roundedQuotient, hd', hn]

namespace Rational

/-- The ticks of a duration in microseconds: its nanoseconds, as far as a timestamp holds them, in
thousands. -/
theorem toInt_ticks_microsecond (d : Duration) :
    (microsecond.ticks d).toInt = (min d.nanos (2 ^ 63 - 1) + 500) / 1000 := by
  have hnanos : (saturated d.nanos).toInt = min (d.nanos : Int) (2 ^ 63 - 1) := by
    rw [toInt_saturated, Int64.toInt_minValue, Int64.toInt_maxValue]
    omega
  have hquotient : roundedQuotient ((saturated d.nanos).toInt * 1 * 1000000) (1000000000 * 1) =
      (min (d.nanos : Int) (2 ^ 63 - 1) + 500) / 1000 := by
    rw [hnanos, roundedQuotient_of_nonneg (by omega) (by omega)]
    omega
  show (saturated (roundedQuotient ((saturated d.nanos).toInt * 1 * 1000000)
    (1000000000 * 1))).toInt = _
  rw [hquotient, toInt_saturated, Int64.toInt_minValue, Int64.toInt_maxValue]
  omega

/-- However long a duration is, it has fewer than `2^54` ticks of a microsecond. -/
theorem ticks_microsecond_lt (d : Duration) : (microsecond.ticks d).toInt < 2 ^ 54 := by
  rw [toInt_ticks_microsecond]
  omega

end Rational

end Framecast

import Framecast.Time.Duration

/-!
# Time bases

A time base says how long one tick of a timestamp lasts, as a fraction of a second. `rescale` takes
a timestamp from one base to another, to the nearest tick; `ticks` counts the ticks in a duration.
Both are exact up to that rounding and saturate at the range of a timestamp.
-/

namespace Framecast

/-- A fraction `num / den`, for time bases, frame rates and aspect ratios. -/
structure Rational where
  /-- The numerator. -/
  num : Int32
  /-- The denominator. -/
  den : Int32
deriving DecidableEq, Repr

/-- The quotient of two integers to the nearest integer, a tie going away from zero. -/
def roundedQuotient (n d : Int) : Int :=
  let (n, d) := if d < 0 then (-n, -d) else (n, d)
  if 0 ≤ n then (n + d / 2) / d else -((-n + d / 2) / d)

/-- The timestamp nearest to an integer. -/
def saturated (z : Int) : Int64 :=
  Int64.ofInt (max Int64.minValue.toInt (min z Int64.maxValue.toInt))

namespace Rational

/-- A value that is left for the encoder to choose. -/
def unset : Rational := ⟨0, 0⟩

/-- Ticks of a microsecond. -/
def microsecond : Rational := ⟨1, 1000000⟩

/-- Ticks of a nanosecond. -/
def nanosecond : Rational := ⟨1, 1000000000⟩

/-- Both terms are positive. -/
def isPositive (r : Rational) : Bool := 0 < r.num && 0 < r.den

/-- The fraction upside down. -/
def inverse (r : Rational) : Rational := ⟨r.den, r.num⟩

/-- The value in double precision, zero if the denominator is. -/
def toFloat (r : Rational) : Float :=
  if r.den = 0 then 0 else r.num.toFloat / r.den.toFloat

/-- The two terms with a stroke between them. -/
def text (r : Rational) : String := toString r.num.toInt ++ "/" ++ toString r.den.toInt

/-- The timestamp `ts`, given in base `source`, in base `target`: the nearest tick, ties away from
zero, saturating. A base that makes the quotient meaningless leaves the timestamp alone. -/
def rescale (ts : Int64) (source target : Rational) : Int64 :=
  if source.den = 0 ∨ target.num = 0 then ts
  else saturated (roundedQuotient (ts.toInt * source.num.toInt * target.den.toInt)
    (source.den.toInt * target.num.toInt))

/-- How many ticks of this base a duration lasts; none if the base is not positive. A duration of
more nanoseconds than a timestamp can hold counts as that many. -/
def ticks (r : Rational) (d : Duration) : Int64 :=
  if r.isPositive then rescale (saturated d.nanos) nanosecond r else 0

end Rational

end Framecast

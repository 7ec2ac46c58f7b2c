import Framecast.Overflow

/-!
# Durations and instants

Time is counted in whole nanoseconds. A `Duration` is shorter than `2^64` seconds; an `Instant` is a
moment on a clock that never goes back, and lies less than `2^63` seconds after its start.
-/

namespace Framecast

/-- Nanoseconds in a second. -/
def nanosPerSecond : Nat := 1000000000

/-- A span of time in whole nanoseconds, shorter than `2^64` seconds. -/
structure Duration where
  /-- The length in nanoseconds. -/
  nanos : Nat
  /-- Whole seconds fit in 64 bits. -/
  nanos_lt : nanos < UInt64.size * nanosPerSecond
deriving DecidableEq, Repr

namespace Duration

/-- The duration of `n` nanoseconds, or the longest one if there is none that long. -/
def ofNanos (n : Nat) : Duration :=
  ⟨min n (UInt64.size * nanosPerSecond - 1), by simp only [UInt64.size, nanosPerSecond]; omega⟩

/-- The duration of `s` seconds and `n` nanoseconds, or the longest one. -/
def ofSeconds (s n : Nat) : Duration := ofNanos (s * nanosPerSecond + n)

/-- No time at all. -/
def zero : Duration := ofNanos 0

/-- Whole seconds. -/
def seconds (d : Duration) : Nat := d.nanos / nanosPerSecond

/-- Nanoseconds past the last whole second. -/
def subsecond (d : Duration) : Nat := d.nanos % nanosPerSecond

/-- Whole microseconds. -/
def micros (d : Duration) : Nat := d.nanos / 1000

/-- Seconds in single precision: whole seconds and the rest are rounded apart, then added. -/
def toSeconds32 (d : Duration) : Float32 :=
  (UInt64.ofNat d.seconds).toFloat32 + (UInt32.ofNat d.subsecond).toFloat32 / 1000000000

end Duration

/-- A moment on the clock, in nanoseconds since its start. -/
structure Instant where
  /-- Nanoseconds since the start of the clock. -/
  nanos : Nat
deriving DecidableEq, Repr

namespace Instant

/-- The time from `start` to `t`, zero if `start` is the later one. -/
def since (t start : Instant) : Duration := .ofNanos (t.nanos - start.nanos)

/-- The moment `d` after `t`, if the clock reaches that far. -/
def after (t : Instant) (d : Duration) : Except Overflow Instant :=
  let n := t.nanos + d.nanos
  if n / nanosPerSecond ≤ Int64.maxValue.toInt then .ok ⟨n⟩ else .error .instant

end Instant

end Framecast

/-!
# Overflow

Arithmetic on widths, timestamps and instants is checked. A result outside its range is not an
error that a caller can recover from: the computation that meets it ends there, and whatever it
changed before stays changed.
-/

namespace Framecast

/-- An arithmetic result outside its range. -/
inductive Overflow
  /-- The sum of two machine integers. -/
  | addition
  /-- The product of two machine integers. -/
  | multiplication
  /-- A moment too far from the start of the clock. -/
  | instant
deriving DecidableEq, Repr

/-- What is reported when a computation ends this way. -/
def Overflow.message : Overflow → String
  | .addition => "attempt to add with overflow"
  | .multiplication => "attempt to multiply with overflow"
  | .instant => "overflow when adding duration to instant"

end Framecast

import Framecast.Decimal.Binary

/-!
# Rates

A rate is a number in single precision, kept by its bits. So a rate that nothing is calculated with
comes out as it went in, also one that is not a number; and two rates are equal if their bits are.
-/

namespace Framecast

/-- A rate in single precision. -/
structure Rate where
  /-- The bits of the number. -/
  bits : UInt32
deriving DecidableEq, Repr

namespace Rate

/-- The rate of a number. -/
def ofFloat32 (x : Float32) : Rate := ⟨x.toBits⟩

/-- The number, to calculate with. -/
def toFloat32 (r : Rate) : Float32 := .ofBits r.bits

/-- The number taken apart. -/
def toBinary (r : Rate) : Binary := .ofBits 23 8 r.bits.toNat

/-- The rate is neither infinite nor something that is not a number. -/
def isFinite (r : Rate) : Bool :=
  match r.toBinary with
  | .zero _ => true
  | .finite _ _ _ _ => true
  | _ => false

/-- The rate before anything has been counted. -/
def zero : Rate := ⟨0⟩

end Rate

end Framecast

/-!
# The decimal form of binary numbers

A finite binary number is `m * 2^e`. The reals nearest to it form an interval whose ends lie half a
step away on either side; the step below is half as long when `m` is the least mantissa of its
exponent. `shortest` finds the decimal of fewest digits in that interval, and the nearest one of
those, by exact integer arithmetic: if a point of a decimal grid lies in the interval, so does one
of the two grid points around the number. A number halfway between two grid points is a tie; what it
goes to is up to the format that is written.
-/

namespace Framecast

/-- A binary floating-point number taken apart. -/
inductive Binary
  | zero (negative : Bool)
  /-- `m * 2^e`; `narrow` tells that the step below is half the step above. -/
  | finite (negative : Bool) (m : Nat) (e : Int) (narrow : Bool)
  | infinite (negative : Bool)
  | nan
deriving DecidableEq, Repr

namespace Binary

/-- Take apart the bits of a number with `p` bits of fraction and `w` bits of exponent. -/
def ofBits (p w bits : Nat) : Binary :=
  let negative := bits / Nat.pow 2 (p + w) % 2 = 1
  let e := bits / Nat.pow 2 p % Nat.pow 2 w
  let f := bits % Nat.pow 2 p
  let bias := Nat.pow 2 (w - 1) - 1 + p
  if e = Nat.pow 2 w - 1 then if f = 0 then .infinite negative else .nan
  else if e = 0 then
    if f = 0 then .zero negative else .finite negative f (1 - (bias : Int)) false
  else .finite negative (Nat.pow 2 p + f) ((e : Int) - bias) (f = 0 && 1 < e)

/-- Take apart a single-precision number. -/
def ofFloat32 (x : Float32) : Binary := ofBits 23 8 x.toBits.toNat

/-- Take apart a double-precision number. -/
def ofFloat (x : Float) : Binary := ofBits 52 11 x.toBits.toNat

end Binary

/-- The power of ten at or below `num / den`: the least `k` from `start` on with
`num / den < 10^(k+1)`. -/
def tenBelow : Nat → Nat → Nat → Int → Int
  | 0, _, _, k => k
  | fuel + 1, num, den, k =>
    let below := if 0 ≤ k + 1 then num < den * Nat.pow 10 (k + 1).toNat
      else num * Nat.pow 10 (k + 1).natAbs < den
    if below then k else tenBelow fuel num den (k + 1)

/-- Drop the zeros at the end of a number, counting them into the scale. -/
def stripZeros : Nat → Nat → Int → Nat × Int
  | 0, n, k => (n, k)
  | fuel + 1, n, k => if n % 10 = 0 ∧ n ≠ 0 then stripZeros fuel (n / 10) (k + 1) else (n, k)

/-- What a number halfway between two grid points goes to. -/
inductive Tie
  /-- The even one of the two. -/
  | even
  /-- The one farther from zero. -/
  | away
deriving DecidableEq, Repr

/-- Whether a number halfway between `d` and `d + 1` goes to `d`. -/
def Tie.goesDown : Tie → Nat → Bool
  | .even, d => d % 2 = 0
  | .away, _ => false

/-- The grid point of `10^k` in the interval `[low, high] / den` that is nearest to `mid / den`. The
interval has its ends if `closed`. -/
def gridPoint? (tie : Tie) (low mid high den : Nat) (closed : Bool) (k : Int) : Option Nat :=
  let up := if 0 ≤ k then 1 else Nat.pow 10 k.natAbs
  let unit := if 0 ≤ k then den * Nat.pow 10 k.toNat else den
  let d := mid * up / unit
  let inside (c : Nat) : Bool :=
    if closed then low * up ≤ c * unit && c * unit ≤ high * up
    else low * up < c * unit && c * unit < high * up
  let gapBelow := mid * up - d * unit
  let gapAbove := (d + 1) * unit - mid * up
  match inside d, inside (d + 1) with
  | true, true =>
    some (if gapBelow < gapAbove ∨ (gapBelow = gapAbove ∧ tie.goesDown d) then d else d + 1)
  | true, false => some d
  | false, true => some (d + 1)
  | false, false => none

/-- The first grid with a point in the interval, from `10^k` downwards. -/
def firstGrid (tie : Tie) : Nat → Nat → Nat → Nat → Nat → Bool → Int → Nat × Int
  | 0, _, mid, _, _, _, k => (mid, k)
  | fuel + 1, low, mid, high, den, closed, k =>
    match gridPoint? tie low mid high den closed k with
    | some d => (d, k)
    | none => firstGrid tie fuel low mid high den closed (k - 1)

/-- The decimal `d * 10^k` of fewest digits that reads back as `m * 2^e`, and the nearest of those,
as `(d, k)`. -/
def shortest (tie : Tie) (m : Nat) (e : Int) (narrow : Bool) : Nat × Int :=
  let q := e - 2
  let unit := if 0 ≤ q then Nat.pow 2 q.toNat else 1
  let den := if 0 ≤ q then 1 else Nat.pow 2 q.natAbs
  let mid := 4 * m * unit
  let high := (4 * m + 2) * unit
  let low := (4 * m - if narrow then 1 else 2) * unit
  let k := tenBelow 700 mid den (-330)
  let (d, k) := firstGrid tie 20 low mid high den (m % 2 = 0) k
  stripZeros 20 d k

/-- `num / den` to the nearest integer. -/
def nearest (tie : Tie) (num den : Nat) : Nat :=
  let d := num / den
  let r := num % den
  if 2 * r < den ∨ (2 * r = den ∧ tie.goesDown d) then d else d + 1

/-- `m * 2^e` in tenths, to the nearest one, a tie going to the even one. -/
def tenths (m : Nat) (e : Int) : Nat :=
  if 0 ≤ e then 10 * m * Nat.pow 2 e.toNat else nearest .even (10 * m) (Nat.pow 2 e.natAbs)

end Framecast

import Framecast.Decimal.Binary

/-!
# Decimal numerals

A `Numeral` is a number as it is written: sign, whole part, fraction and exponent, each digit kept.
Nothing is rounded until a value is asked for. `toNat?` and `toInt?` read a numeral that is written
as an integer. `toFloat?` reads any numeral in double precision: it collects the leading digits that
fit a 64-bit word and scales them by a power of ten once, so the last bit of the answer can differ
from that of the nearest double.
-/

namespace Framecast

/-- The sign written before an exponent. -/
inductive ExponentSign
  | absent
  | plus
  | minus
deriving DecidableEq, Repr

/-- A number as it is written. -/
structure Numeral where
  /-- A minus stands in front. -/
  negative : Bool
  /-- The digits before the point. -/
  whole : List Char
  /-- The digits after the point, if there is one. -/
  fraction : Option (List Char)
  /-- The exponent, if there is one. -/
  exponent : Option (ExponentSign × List Char)
deriving DecidableEq, Repr

namespace Numeral

/-- The value of a run of decimal digits. -/
def value (ds : List Char) : Nat := Nat.ofDigitChars 10 ds 0

/-- The numeral of a natural number. -/
def ofNat (n : Nat) : Numeral := ⟨false, Nat.toDigits 10 n, none, none⟩

/-- The numeral of an integer. -/
def ofInt (z : Int) : Numeral := ⟨decide (z < 0), Nat.toDigits 10 z.natAbs, none, none⟩

/-- The characters of a numeral. -/
def chars (n : Numeral) : List Char :=
  (if n.negative then ['-'] else []) ++ n.whole
    ++ (match n.fraction with
      | none => []
      | some ds => '.' :: ds)
    ++ (match n.exponent with
      | none => []
      | some (.absent, ds) => 'e' :: ds
      | some (.plus, ds) => 'e' :: '+' :: ds
      | some (.minus, ds) => 'e' :: '-' :: ds)

/-- The text of a numeral. -/
def text (n : Numeral) : String := String.ofList n.chars

/-- The value of a numeral written as a natural number. -/
def toNat? (n : Numeral) : Option Nat :=
  if n.negative || n.fraction.isSome || n.exponent.isSome then none else some (value n.whole)

/-- The value of a numeral written as an integer. Minus zero is not an integer. -/
def toInt? (n : Numeral) : Option Int :=
  if n.fraction.isSome || n.exponent.isSome then none
  else if n.negative then
    if value n.whole = 0 then none else some (-(value n.whole : Int))
  else some (value n.whole)

/-! ## Reading in floating point -/

/-- Take digits into `sig` as long as it stays below `2^64`; the rest is returned. -/
def collect (sig : Nat) : List Char → Nat × List Char
  | [] => (sig, [])
  | d :: ds =>
    let next := sig * 10 + (d.toNat - '0'.toNat)
    if next < UInt64.size then collect next ds else (sig, d :: ds)

/-- Divide by `10^308` until the exponent is within reach of one division. -/
def scaleDown : Nat → Float → Int → Float
  | 0, _, _ => 0
  | n + 1, f, e =>
    if -308 ≤ e then f / Float.ofScientific 1 false e.natAbs
    else scaleDown n (f / Float.ofScientific 1 false 308) (e + 308)

/-- `sig * 10^e`, or `none` if that is too large. Three divisions take any 64-bit `sig` to zero. -/
def scaled? (sig : Nat) (e : Int) : Option Float :=
  let f := (UInt64.ofNat sig).toFloat
  if sig = 0 then some 0
  else if e < 0 then some (scaleDown 4 f e)
  else if e ≤ 308 then
    let r := f * Float.ofScientific 1 false e.toNat
    if r.isInf then none else some r
  else none

/-- The exponent as an integer; zero if there is none. -/
def exponentValue (n : Numeral) : Int :=
  match n.exponent with
  | none => 0
  | some (.minus, ds) => -(value ds : Int)
  | some (_, ds) => value ds

/-- The value in double precision, or `none` beyond its range. -/
def toFloat? (n : Numeral) : Option Float :=
  let (sig, dropped) := collect 0 n.whole
  let (sig', unread) := collect sig (n.fraction.getD [])
  let taken := (n.fraction.getD []).length - unread.length
  let r := scaled? sig' (dropped.length - taken + n.exponentValue)
  if n.negative then r.map (fun f => -f) else r

/-- The value in single precision: a numeral written as a machine integer is converted at once, any
other one by way of double precision. -/
def toFloat32? (n : Numeral) : Option Float32 :=
  match n.toInt? with
  | some z =>
    if 0 ≤ z ∧ z < UInt64.size then some (UInt64.ofNat z.toNat).toFloat32
    else if Int64.minValue.toInt ≤ z ∧ z < 0 then some (Int64.ofInt z).toFloat32
    else n.toFloat?.map Float.toFloat32
  | none => n.toFloat?.map Float.toFloat32

/-! ## Writing floating point -/

/-- Where positional writing ends, how an exponent is written, and what a tie goes to. The point of
`0.ddd × 10^k` is at `k`. -/
structure Style where
  /-- The lowest point written positionally. -/
  lowest : Int
  /-- The highest point written positionally. -/
  highest : Int
  /-- Whether a plus is written before a positive exponent. -/
  plus : ExponentSign
  /-- What a number halfway between the two nearest decimals goes to. -/
  tie : Tie

/-- Data documents write single precision positionally from `1e-6` to below `1e13`; a tie goes to
the even decimal. -/
def Style.document : Style := ⟨-5, 13, .plus, .even⟩

/-- Log lines write double precision positionally from `1e-4` to below `1e16`; a tie goes away from
zero. -/
def Style.log : Style := ⟨-3, 16, .absent, .away⟩

/-- Zeros, `n` of them. -/
def zeros (n : Nat) : List Char := List.replicate n '0'

/-- The numeral of `0.ds × 10^point`. An integral value keeps one zero after the point. -/
def Style.layout (s : Style) (negative : Bool) (ds : List Char) (point : Int) : Numeral :=
  if point < s.lowest ∨ s.highest < point then
    let e := point - 1
    ⟨negative, ds.take 1, if ds.length ≤ 1 then none else some (ds.drop 1),
      some (if e < 0 then .minus else s.plus, Nat.toDigits 10 e.natAbs)⟩
  else if point ≤ 0 then
    ⟨negative, ['0'], some (zeros point.natAbs ++ ds), none⟩
  else
    let k := point.toNat
    if ds.length ≤ k then ⟨negative, ds ++ zeros (k - ds.length), some ['0'], none⟩
    else ⟨negative, ds.take k, some (ds.drop k), none⟩

/-- The numeral with the fewest digits that reads back as the given number; `none` if the number is
not finite. -/
def Style.shortest? (s : Style) : Binary → Option Numeral
  | .zero negative => some ⟨negative, ['0'], some ['0'], none⟩
  | .finite negative m e narrow =>
    let (digits, scale) := shortest s.tie m e narrow
    let ds := Nat.toDigits 10 digits
    some (s.layout negative ds (ds.length + scale))
  | .infinite _ => none
  | .nan => none

end Numeral

end Framecast

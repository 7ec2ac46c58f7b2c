import Framecast.Json.Parser

/-!
# Reading values from JSON

Readers for the shapes that messages are made of. A record is an object whose members come in any
order, or an array of its fields in order. Members that no field is named for are passed over; a
field given twice, or more items than fields, is refused. A choice is its name alone, or an object
with that name as its only member.
-/

namespace Framecast.Json

/-- A boolean. -/
def asBool? : Json → Option Bool
  | .bool b => some b
  | _ => none

/-- A string. -/
def asString? : Json → Option String
  | .string s => s
  | _ => none

/-- A natural number below `bound`, written as an integer. -/
def asNat? (bound : Nat) : Json → Option Nat
  | .number n => do
    let k ← n.toNat?
    if k < bound then some k else none
  | _ => none

/-- An unsigned 32-bit integer. -/
def asUInt32? (v : Json) : Option UInt32 := (v.asNat? UInt32.size).map UInt32.ofNat

/-- An unsigned 64-bit integer. -/
def asUInt64? (v : Json) : Option UInt64 := (v.asNat? UInt64.size).map UInt64.ofNat

/-- A signed 32-bit integer. -/
def asInt32? : Json → Option Int32
  | .number n => do
    let z ← n.toInt?
    if Int32.minValue.toInt ≤ z ∧ z ≤ Int32.maxValue.toInt then some (Int32.ofInt z) else none
  | _ => none

/-- A single-precision number, from any numeral in the range of double precision. -/
def asFloat32? : Json → Option Float32
  | .number n => n.toFloat32?
  | _ => none

/-- `null`, or what `f` reads. -/
def asOption? {α : Type} (f : Json → Option α) : Json → Option (Option α)
  | .null => some none
  | v => (f v).map some

/-! ## Records -/

/-- The value of the one member called `name`, if there is one. -/
def member? (name : String) : List (Option String × Json) → Option Json
  | [] => none
  | (k, v) :: ms => if k = some name then some v else member? name ms

/-- How many members are called `name`. -/
def countMembers (name : String) (ms : List (Option String × Json)) : Nat :=
  ms.countP fun (k, _) => k = some name

/-- The values of the named fields of a record, in the order of the names; `none` where a field is
missing. -/
def fields? (names : List String) : Json → Option (List (Option Json))
  | .object ms =>
    if ms.all (·.1.isSome) && names.all (fun name => countMembers name ms ≤ 1) then
      some (names.map (member? · ms))
    else none
  | .array vs =>
    if vs.length ≤ names.length then
      some (vs.map some ++ List.replicate (names.length - vs.length) none)
    else none
  | _ => none

/-- A field that has to be there. -/
def required {α : Type} (f : Json → Option α) (v : Option Json) : Option α := v.bind f

/-- A field with a default. -/
def orDefault {α : Type} (d : α) (f : Json → Option α) : Option Json → Option α
  | none => some d
  | some v => f v

/-! ## Choices -/

/-- The name of a choice, and what comes with it. -/
def choice? : Json → Option (String × Option Json)
  | .string s => s.map (·, none)
  | .object [(some name, v)] => some (name, some v)
  | _ => none

/-- Nothing comes with the choice; `null` counts as nothing. -/
def bare {α : Type} (a : α) : Option Json → Option α
  | none => some a
  | some .null => some a
  | some _ => none

end Framecast.Json

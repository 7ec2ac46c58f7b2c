import Framecast.Decimal.Numeral

/-!
# JSON values

A value keeps what its text tells apart: numbers as they are written, members in their order and
with repetitions. A string is `none` when its escapes name half of a surrogate pair: such a text is
well formed, but it names no sequence of characters, so nobody can use it.
-/

namespace Framecast

/-- A JSON value. -/
inductive Json
  | null
  | bool (b : Bool)
  | number (n : Numeral)
  | string (s : Option String)
  | array (items : List Json)
  | object (members : List (Option String × Json))

namespace Json

/-- A string that has characters. -/
def text (s : String) : Json := .string (some s)

/-- A natural number. -/
def nat (n : Nat) : Json := .number (.ofNat n)

/-- An integer. -/
def int (z : Int) : Json := .number (.ofInt z)

/-- An object with the given members, in order. -/
def struct (members : List (String × Json)) : Json :=
  .object (members.map fun (name, v) => (some name, v))

/-- `null`, or the value that stands for `a`. -/
def option {α : Type} (f : α → Json) : Option α → Json
  | none => .null
  | some a => f a

end Json

end Framecast

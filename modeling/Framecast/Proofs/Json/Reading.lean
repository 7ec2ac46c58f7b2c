import Framecast.Json.Reading
import Framecast.Proofs.Decimal.Numeral

/-!
# Reading what was written

Each reader of `Json` takes back the value that the writer of its kind makes: numbers with their
full range, options, choices and records. A record is read in the order of the names that its
members are written in; the names have to differ, since a field given twice is refused.
-/

namespace Framecast

namespace Json

/-! ## Values without parts -/

/-- A truth value is read. -/
@[simp] theorem asBool?_bool (b : Bool) : asBool? (.bool b) = some b := rfl

/-- A text is read. -/
@[simp] theorem asString?_text (s : String) : asString? (text s) = some s := rfl

/-- A natural number is read below its bound. -/
theorem asNat?_nat {bound n : Nat} (h : n < bound) : asNat? bound (nat n) = some n := by
  unfold nat
  rw [asNat?.eq_1, Numeral.toNat?_ofNat, Option.bind_eq_bind, Option.bind_some, if_pos h]

/-- A number of 32 bits is read. -/
@[simp] theorem asUInt32?_nat (n : UInt32) : asUInt32? (nat n.toNat) = some n := by
  unfold asUInt32?
  rw [asNat?_nat n.toNat_lt, Option.map_some, UInt32.ofNat_toNat]

/-- A number of 64 bits is read. -/
@[simp] theorem asUInt64?_nat (n : UInt64) : asUInt64? (nat n.toNat) = some n := by
  unfold asUInt64?
  rw [asNat?_nat n.toNat_lt, Option.map_some, UInt64.ofNat_toNat]

/-- A number of 32 bits with a sign is read. -/
@[simp] theorem asInt32?_int (z : Int32) : asInt32? (int z.toInt) = some z := by
  show (Numeral.ofInt z.toInt).toInt?.bind _ = _
  have hlow : Int32.minValue.toInt ≤ z.toInt := z.minValue_le_toInt
  have hhigh : z.toInt ≤ Int32.maxValue.toInt := z.toInt_le
  rw [Numeral.toInt?_ofInt, Option.bind_some, if_pos ⟨hlow, hhigh⟩, Int32.ofInt_toInt]

/-- An option is read if what it holds is, and is not written as `null`. -/
theorem asOption?_option {α : Type} {f : α → Json} {g : Json → Option α}
    (read : ∀ a, g (f a) = some a) (ne_null : ∀ a, f a ≠ .null) (x : Option α) :
    asOption? g (option f x) = some x := by
  cases x with
  | none => rfl
  | some a =>
    rw [option.eq_2, asOption?.eq_2 _ _ (ne_null a), read a]
    rfl

/-! ## Records and choices -/

/-- A required member that is there is read. -/
@[simp] theorem required_some {α : Type} (f : Json → Option α) (v : Json) :
    required f (some v) = f v := rfl

/-- A member with a default is read if it is there. -/
@[simp] theorem orDefault_some {α : Type} (d : α) (f : Json → Option α) (v : Json) :
    orDefault d f (some v) = f v := rfl

/-- A text is a choice without a value. -/
@[simp] theorem choice?_text (name : String) : choice? (text name) = some (name, none) := rfl

/-- A record of one member is a choice with its value. -/
@[simp] theorem choice?_struct (name : String) (v : Json) :
    choice? (struct [(name, v)]) = some (name, some v) := rfl

/-- A choice that takes no value is read if it has none. -/
@[simp] theorem bare_none {α : Type} (a : α) : bare a none = some a := rfl

/-- The members of a record are counted by their names. -/
theorem countMembers_struct (name : String) (ms : List (String × Json)) :
    countMembers name (ms.map fun (k, v) => (some k, v)) = (ms.map Prod.fst).count name := by
  unfold countMembers List.count
  rw [List.countP_map, List.countP_map]
  refine List.countP_congr fun m _ => ?_
  simp

/-- A member is found by its name. -/
theorem member?_cons_self (name : String) (v : Json) (ms : List (Option String × Json)) :
    member? name ((some name, v) :: ms) = some v := by
  rw [member?.eq_2, if_pos rfl]

/-- A member of another name is passed over. -/
theorem member?_cons_of_ne {name other : String} (h : other ≠ name) (v : Json)
    (ms : List (Option String × Json)) :
    member? name ((some other, v) :: ms) = member? name ms := by
  rw [member?.eq_2, if_neg fun heq => h (Option.some.inj heq)]

/-- A member of a record is found by its name, if no other has that name. -/
theorem member?_struct {ms : List (String × Json)} (distinct : (ms.map Prod.fst).Nodup)
    {m : String × Json} (h : m ∈ ms) :
    member? m.1 (ms.map fun (k, v) => (some k, v)) = some m.2 := by
  induction ms with
  | nil => exact absurd h List.not_mem_nil
  | cons m' ms ih =>
    rw [List.map_cons, List.nodup_cons] at distinct
    rw [List.map_cons]
    rcases List.mem_cons.mp h with rfl | h
    · exact member?_cons_self _ _ _
    · have hne : m'.1 ≠ m.1 := by
        intro heq
        rw [heq] at distinct
        exact distinct.1 (List.mem_map_of_mem h)
      exact (member?_cons_of_ne hne _ _).trans (ih distinct.2 h)

/-- A record is read in the order of its names, each of which has its value. -/
@[simp] theorem fields?_struct {names : List String} {ms : List (String × Json)}
    (same : ms.map Prod.fst = names) (distinct : names.Nodup) :
    fields? names (struct ms) = some (ms.map fun m => some m.2) := by
  subst same
  have hnamed : (ms.map fun (k, v) => (some k, v)).all (·.1.isSome) = true := by
    simp [List.all_eq_true]
  have honce : (ms.map Prod.fst).all
      (fun name => countMembers name (ms.map fun (k, v) => (some k, v)) ≤ 1) = true := by
    refine List.all_eq_true.mpr fun name _ => ?_
    rw [countMembers_struct]
    exact decide_eq_true (List.nodup_iff_count.mp distinct name)
  unfold struct
  rw [fields?.eq_1, hnamed, honce, Bool.and_self, if_pos rfl, List.map_map]
  congr 1
  exact List.map_congr_left fun m hm => member?_struct distinct hm

end Json

end Framecast

import Framecast.Decimal.Numeral

/-!
# Numerals and their spellings

A numeral keeps the digits that it is written with, so that it is spelled by its own characters;
only the mark of an exponent may be written in either case (`Numeral.Spelled`). The numeral of an
integer has no digit too many and is worth that integer (`toNat?_ofNat`, `toInt?_ofInt`).
-/

namespace Framecast

/-- A run of decimal digits that is not empty. -/
def IsDigits (ds : List Char) : Prop := ds ≠ [] ∧ ∀ d ∈ ds, d.isDigit = true

namespace Numeral

/-- The spelling of a fraction, if there is one. -/
inductive FractionSpelled : Option (List Char) → List Char → Prop
  | absent : FractionSpelled none []
  | present {ds : List Char} (digits : IsDigits ds) : FractionSpelled (some ds) ('.' :: ds)

/-- The spellings of an exponent, if there is one. -/
inductive ExponentSpelled : Option (ExponentSign × List Char) → List Char → Prop
  | absent : ExponentSpelled none []
  | unsigned {e : Char} {ds : List Char} (mark : e = 'e' ∨ e = 'E') (digits : IsDigits ds) :
      ExponentSpelled (some (.absent, ds)) (e :: ds)
  | plus {e : Char} {ds : List Char} (mark : e = 'e' ∨ e = 'E') (digits : IsDigits ds) :
      ExponentSpelled (some (.plus, ds)) (e :: '+' :: ds)
  | minus {e : Char} {ds : List Char} (mark : e = 'e' ∨ e = 'E') (digits : IsDigits ds) :
      ExponentSpelled (some (.minus, ds)) (e :: '-' :: ds)

/-- The spellings of a numeral. Its whole part is a zero alone, or has no zero in front. -/
inductive Spelled (n : Numeral) : List Char → Prop
  | parts {fs es : List Char} (whole : IsDigits n.whole)
      (leading : n.whole.head? = some '0' → n.whole = ['0'])
      (fraction : FractionSpelled n.fraction fs) (exponent : ExponentSpelled n.exponent es) :
      Spelled n ((if n.negative then ['-'] else []) ++ (n.whole ++ (fs ++ es)))

/-! ## Numerals of integers -/

/-- The digits of a natural number are digits. -/
theorem isDigits_toDigits (n : Nat) : IsDigits (Nat.toDigits 10 n) :=
  ⟨Nat.toDigits_ne_nil, fun _ hd => Nat.isDigit_of_mem_toDigits (by decide) (by decide) hd⟩

/-- The digits of a natural number are worth that number. -/
@[simp] theorem value_toDigits (n : Nat) : value (Nat.toDigits 10 n) = n :=
  Nat.ofDigitChars_ten_toDigits

/-- The digits of a natural number start with a zero only if there is nothing else. -/
theorem toDigits_of_head_zero {n : Nat} (h : (Nat.toDigits 10 n).head? = some '0') :
    Nat.toDigits 10 n = ['0'] := by
  induction n using Nat.strongRecOn with
  | ind n ih =>
    rw [Nat.toDigits_eq_if (by decide)] at h ⊢
    split at h <;> rename_i hn
    · rw [if_pos hn]
      rw [List.head?_cons, Option.some.injEq] at h
      rw [h]
    · -- The digits of a tenth would be a zero alone, though it is not zero.
      have hhead : (Nat.toDigits 10 (n / 10)).head? = some '0' := by
        obtain ⟨d, ds, hds⟩ := List.exists_cons_of_ne_nil (isDigits_toDigits (n / 10)).1
        rw [hds] at h ⊢
        exact h
      have htenth := congrArg value (ih (n / 10) (by omega) hhead)
      rw [value_toDigits] at htenth
      have hzero : value ['0'] = 0 := rfl
      omega

/-- A numeral with the digits of a natural number, and nothing behind them, is spelled by its
characters. -/
theorem spelled_toDigits (negative : Bool) (n : Nat) :
    (⟨negative, Nat.toDigits 10 n, none, none⟩ : Numeral).Spelled
      (⟨negative, Nat.toDigits 10 n, none, none⟩ : Numeral).chars := by
  have h := Spelled.parts (n := ⟨negative, Nat.toDigits 10 n, none, none⟩) (isDigits_toDigits n)
    toDigits_of_head_zero .absent .absent
  unfold chars
  simpa using h

/-- The numeral of a natural number is spelled by its characters. -/
theorem spelled_ofNat (n : Nat) : (ofNat n).Spelled (ofNat n).chars := spelled_toDigits false n

/-- The numeral of an integer is spelled by its characters. -/
theorem spelled_ofInt (z : Int) : (ofInt z).Spelled (ofInt z).chars := spelled_toDigits _ _

/-- The numeral of a natural number is worth that number. -/
@[simp] theorem toNat?_ofNat (n : Nat) : (ofNat n).toNat? = some n := by
  simp [toNat?, ofNat]

/-- The numeral of an integer is worth that integer. -/
@[simp] theorem toInt?_ofInt (z : Int) : (ofInt z).toInt? = some z := by
  unfold toInt? ofInt
  dsimp only [Option.isSome_none, Bool.or_self]
  rw [if_neg (by decide), value_toDigits]
  by_cases hz : z < 0
  · rw [if_pos (decide_eq_true hz), if_neg (by omega)]
    congr 1
    omega
  · rw [if_neg (by simpa using hz)]
    congr 1
    omega

end Numeral

end Framecast

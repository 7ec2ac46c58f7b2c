import Framecast.Capture.Frame

/-!
# The rows of a frame

A row takes four bytes a pixel or one, as the layout has it (`rowBytes`), and a frame is usable if
it has a surface whose pitch holds a row. The check does not count beyond 32 bits: where a row takes
more bytes than that (`Overwide`) it overflows before the pitch is looked at. No pitch could hold
such a row.
-/

namespace Framecast

namespace CapturedFrame

variable {f : CapturedFrame}

/-- How many bytes a row takes. -/
def rowBytes (f : CapturedFrame) : Nat :=
  match f.format with
  | .bgra => 4 * f.width.toNat
  | .nv12 => f.width.toNat

/-- There is a surface, and its pitch holds a row. -/
def Usable (f : CapturedFrame) : Prop := f.address ≠ 0 ∧ f.rowBytes ≤ f.pitch.toNat

/-- Whether a frame is usable can be computed. -/
instance : DecidablePred Usable := fun f =>
  inferInstanceAs (Decidable (f.address ≠ 0 ∧ f.rowBytes ≤ f.pitch.toNat))

/-- There is a surface, and a row takes more bytes than 32 bits can count. -/
def Overwide (f : CapturedFrame) : Prop := f.address ≠ 0 ∧ UInt32.size ≤ f.rowBytes

/-- Whether a row is too wide can be computed. -/
instance : DecidablePred Overwide := fun f =>
  inferInstanceAs (Decidable (f.address ≠ 0 ∧ UInt32.size ≤ f.rowBytes))

/-- A frame whose rows no pitch could hold is not usable. -/
theorem Overwide.unusable (h : f.Overwide) : ¬ f.Usable := by
  intro husable
  have hpitch := f.pitch.toNat_lt_size
  have hrow := h.2
  have hheld := husable.2
  omega

/-- The least pitch is the size of a row, if 32 bits can count it. -/
theorem minPitch_eq (f : CapturedFrame) :
    f.minPitch =
      if UInt32.size ≤ f.rowBytes then .error .multiplication else .ok (.ofNat f.rowBytes) := by
  unfold minPitch rowBytes
  cases f.format with
  | bgra =>
    dsimp only
    rw [Nat.mul_comm]
    by_cases hfits : 4 * f.width.toNat < UInt32.size
    · rw [if_pos hfits, if_neg (Nat.not_le.mpr hfits)]
      congr 1
      rw [← UInt32.toNat_inj, UInt32.toNat_mul, UInt32.toNat_ofNat_of_lt' hfits]
      show f.width.toNat * 4 % UInt32.size = 4 * f.width.toNat
      rw [Nat.mul_comm]
      exact Nat.mod_eq_of_lt hfits
    · rw [if_neg hfits, if_pos (Nat.not_lt.mp hfits)]
  | nv12 =>
    dsimp only
    rw [if_neg (Nat.not_le.mpr f.width.toNat_lt_size), UInt32.ofNat_toNat]

/-- A frame is valid if it is usable; an overwide one is not judged. -/
theorem isValid_eq (f : CapturedFrame) :
    f.isValid = if f.Overwide then .error .multiplication else .ok (decide f.Usable) := by
  unfold isValid
  by_cases hnull : f.address = 0
  · rw [if_pos hnull, if_neg fun h => h.1 hnull]
    have hunusable : ¬ f.Usable := fun h => h.1 hnull
    rw [decide_eq_false hunusable]
  · rw [if_neg hnull, minPitch_eq]
    by_cases hwide : UInt32.size ≤ f.rowBytes
    · rw [if_pos hwide, if_pos ⟨hnull, hwide⟩]
      rfl
    · rw [if_neg hwide, if_neg fun h => hwide h.2]
      have hle : UInt32.ofNat f.rowBytes ≤ f.pitch ↔ f.Usable := by
        rw [UInt32.le_iff_toNat_le, UInt32.toNat_ofNat_of_lt' (Nat.lt_of_not_le hwide)]
        exact ⟨fun h => ⟨hnull, h⟩, And.right⟩
      show Except.ok (decide (UInt32.ofNat f.rowBytes ≤ f.pitch)) = _
      rw [decide_eq_decide.mpr hle]

/-- Only a row that is too wide to count keeps a frame from being judged. -/
theorem isValid_error {x : Overflow} : f.isValid = .error x ↔ x = .multiplication ∧ f.Overwide := by
  rw [isValid_eq]
  by_cases hwide : f.Overwide
  · rw [if_pos hwide]
    exact ⟨fun h => ⟨(Except.error.inj h).symm, hwide⟩, fun h => congrArg _ h.1.symm⟩
  · rw [if_neg hwide]
    constructor
    · rintro ⟨⟩
    · rintro ⟨-, h⟩
      exact absurd h hwide

/-- Only a usable frame is found valid. -/
theorem isValid_true : f.isValid = .ok true ↔ f.Usable := by
  rw [isValid_eq]
  by_cases hwide : f.Overwide
  · rw [if_pos hwide]
    constructor
    · rintro ⟨⟩
    · intro husable
      exact absurd husable hwide.unusable
  · rw [if_neg hwide]
    exact ⟨fun h => of_decide_eq_true (Except.ok.inj h), fun h => congrArg _ (decide_eq_true h)⟩

/-- A frame that is not usable is not judged, or judged so. -/
theorem isValid_of_unusable (h : ¬ f.Usable) :
    f.isValid = if f.Overwide then .error .multiplication else .ok false := by
  rw [isValid_eq, decide_eq_false h]

end CapturedFrame

end Framecast

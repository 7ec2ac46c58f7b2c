import Mathlib
import Framecast.Proofs.Drain.Stamp

/-!
# Stamps one after the other

Stamps that are given one after the other climb: each is the wanted one, moved on where that does
not come after the stamp before (`climb`). In closed form, a stamp is the greatest of the stamps
wanted so far, each counted one tick later for every stamp given since (`climb_isGreatest`). So the
stamps increase, and the last one is ahead of all that were wanted by less than the number of
stamps. Stamps that are wanted in increasing order are given as they are (`climb_of_increasing`),
and those that are all wanted at zero count up from there (`climb_replicate_zero`).
-/

namespace Framecast

/-- The stamp that a wanted one becomes after the last one. -/
def climbFrom (last : Option Int) (wanted : Int) : Int :=
  match last with
  | none => wanted
  | some t => max wanted (t + 1)

/-- The stamps that wanted ones become, one after the other, after the last one. -/
def climb (last : Option Int) : List Int → List Int
  | [] => []
  | w :: ws => climbFrom last w :: climb (some (climbFrom last w)) ws

/-- The next stamp, if it does not overflow, is the wanted one or the tick after the last one. -/
theorem toInt_nextStamp {last : Option Int64} {wanted ts : Int64}
    (h : nextStamp last wanted = .ok ts) :
    ts.toInt = climbFrom (last.map Int64.toInt) wanted.toInt := by
  cases last with
  | none =>
    obtain rfl := Except.ok.inj h
    rfl
  | some t =>
    unfold nextStamp at h
    dsimp only at h
    show ts.toInt = max wanted.toInt (t.toInt + 1)
    split at h
    · rename_i hle
      rw [Int64.le_iff_toInt_le] at hle
      rw [toInt_tickAfter h]
      omega
    · rename_i hlt
      rw [Int64.le_iff_toInt_le] at hlt
      obtain rfl := Except.ok.inj h
      omega

/-- The next stamp does not overflow where the last one is not the last tick. -/
theorem nextStamp_ok {last : Option Int64} (wanted : Int64)
    (below : ∀ t, last = some t → t.toInt < 2 ^ 63 - 1) :
    ∃ ts, nextStamp last wanted = .ok ts := by
  cases last with
  | none => exact ⟨wanted, rfl⟩
  | some t =>
    have hne : t ≠ Int64.maxValue := by
      rintro rfl
      have h := below _ rfl
      rw [Int64.toInt_maxValue] at h
      omega
    by_cases hle : wanted ≤ t
    · exact ⟨t + 1, by simp [nextStamp, tickAfter, hle, hne]⟩
    · exact ⟨wanted, by simp [nextStamp, hle]⟩

/-! ## The closed form -/

/-- The values that bound stamp number `k` from below: the stamps wanted up to it and the last one
before them, each counted one tick later for every stamp given since. -/
def footing (last : Option Int) (wanted : List Int) (k : Nat) : Set Int :=
  {x | (∃ j w, j ≤ k ∧ wanted[j]? = some w ∧ x = w + (k - j)) ∨
    ∃ t, last = some t ∧ x = t + 1 + k}

/-- The first stamp is the greatest value that bounds it. -/
theorem climbFrom_isGreatest (last : Option Int) (w : Int) (ws : List Int) :
    IsGreatest (footing last (w :: ws) 0) (climbFrom last w) := by
  constructor
  · cases last with
    | none => exact .inl ⟨0, w, le_rfl, rfl, by simp [climbFrom]⟩
    | some t =>
      -- The greater of the two is one of the two.
      rcases le_total (t + 1) w with hle | hle
      · exact .inl ⟨0, w, le_rfl, rfl, by simp [climbFrom, hle]⟩
      · exact .inr ⟨t, rfl, by simp [climbFrom, hle]⟩
  · rintro x (⟨j, v, hj, hv, rfl⟩ | ⟨t, rfl, rfl⟩)
    · obtain rfl := Nat.le_zero.mp hj
      obtain rfl := Option.some.inj hv
      cases last with
      | none => simp [climbFrom]
      | some t => simp [climbFrom]
    · simp [climbFrom]

/-- A stamp is the greatest of the values that bound it. The induction is on the wanted stamps; the
first stamp is the last one for those that follow it. -/
theorem climb_isGreatest_footing {last : Option Int} {wanted : List Int} {k : Nat} {t : Int}
    (h : (climb last wanted)[k]? = some t) : IsGreatest (footing last wanted k) t := by
  induction wanted generalizing last k with
  | nil => simp [climb] at h
  | cons w ws ih =>
    cases k with
    | zero =>
      obtain rfl := Option.some.inj h
      exact climbFrom_isGreatest last w ws
    | succ k =>
      have hfirst := climbFrom_isGreatest last w ws
      generalize hc : climbFrom last w = c at hfirst
      have hrest : IsGreatest (footing (some c) ws k) t := by
        apply ih
        rw [← hc]
        exact h
      -- What bounds the first stamp bounds the later ones through it.
      have hc' : c + 1 + k ≤ t := hrest.2 (.inr ⟨c, rfl, rfl⟩)
      constructor
      · rcases hrest.1 with ⟨j, v, hj, hv, rfl⟩ | ⟨_, ⟨⟩, rfl⟩
        · exact .inl ⟨j + 1, v, by omega, hv, by push_cast; omega⟩
        · rcases hfirst.1 with ⟨j, v, hj, hv, rfl⟩ | ⟨u, hu, rfl⟩
          · obtain rfl := Nat.le_zero.mp hj
            exact .inl ⟨0, v, by omega, hv, by push_cast; omega⟩
          · exact .inr ⟨u, hu, by push_cast; omega⟩
      · rintro x (⟨j, v, hj, hv, rfl⟩ | ⟨u, hu, rfl⟩)
        · cases j with
          | zero =>
            have hle : v + ((0 : Nat) - (0 : Nat)) ≤ c := hfirst.2 (.inl ⟨0, v, le_rfl, hv, rfl⟩)
            push_cast at hle ⊢
            omega
          | succ j =>
            have hle : v + (k - j) ≤ t := hrest.2 (.inl ⟨j, v, by omega, hv, rfl⟩)
            push_cast
            omega
        · have hle : u + 1 + (0 : Nat) ≤ c := hfirst.2 (.inr ⟨u, hu, rfl⟩)
          push_cast at hle ⊢
          omega

/-- The closed form: stamp number `k` is the greatest of the stamps wanted up to it, each counted
one tick later for every stamp given since. -/
theorem climb_isGreatest {wanted : List Int} {k : Nat} {t : Int}
    (h : (climb none wanted)[k]? = some t) :
    IsGreatest {x | ∃ j w, j ≤ k ∧ wanted[j]? = some w ∧ x = w + ((k : Int) - j)} t := by
  have hset : footing none wanted k =
      {x | ∃ j w, j ≤ k ∧ wanted[j]? = some w ∧ x = w + ((k : Int) - j)} := by
    simp [footing]
  rw [← hset]
  exact climb_isGreatest_footing h

/-- There is a stamp for each wanted one. -/
@[simp] theorem length_climb (last : Option Int) (wanted : List Int) :
    (climb last wanted).length = wanted.length := by
  induction wanted generalizing last with
  | nil => rfl
  | cons w ws ih => simp [climb, ih]

/-- One more wanted stamp adds one stamp, which comes after the last of those before it. -/
theorem climb_concat (last : Option Int) (wanted : List Int) (w : Int) :
    climb last (wanted ++ [w]) =
      climb last wanted ++ [climbFrom ((climb last wanted).getLast?.or last) w] := by
  induction wanted generalizing last with
  | nil => rfl
  | cons v vs ih =>
    rw [List.cons_append, climb, climb, ih, List.getLast?_cons, List.cons_append]
    cases (climb (some (climbFrom last v)) vs).getLast? <;> rfl

/-- Stamps come after the last one before them. -/
theorem lt_of_mem_climb {last t : Int} {wanted : List Int} (h : t ∈ climb (some last) wanted) :
    last < t := by
  obtain ⟨k, hk⟩ := List.mem_iff_getElem?.mp h
  have hle : last + 1 + k ≤ t := (climb_isGreatest_footing hk).2 (.inr ⟨last, rfl, rfl⟩)
  omega

/-- Stamps increase. -/
theorem climb_pairwise (last : Option Int) (wanted : List Int) :
    (climb last wanted).Pairwise (· < ·) := by
  induction wanted generalizing last with
  | nil => exact .nil
  | cons w ws ih => exact .cons (fun t ht => lt_of_mem_climb ht) (ih _)

/-- Where no wanted stamp exceeds a bound, a stamp exceeds it by less than the number of stamps. -/
theorem climb_lt {wanted : List Int} {bound t : Int} (bounded : ∀ w ∈ wanted, w ≤ bound)
    (h : t ∈ climb none wanted) : t < bound + wanted.length := by
  obtain ⟨k, hk⟩ := List.mem_iff_getElem?.mp h
  obtain ⟨hlt, -⟩ := List.getElem?_eq_some_iff.mp hk
  rw [length_climb] at hlt
  obtain ⟨j, w, hj, hw, rfl⟩ := (climb_isGreatest hk).1
  have hle := bounded w (List.mem_of_getElem? hw)
  omega

/-! ## Stamps that are wanted in order, and all at zero -/

/-- Stamps that are wanted in increasing order, all after the last one, are given as they are. The
induction is on the wanted stamps; the first one is the last one for those that follow it. -/
theorem climb_of_increasing {last : Option Int} {wanted : List Int}
    (increasing : (last.toList ++ wanted).Pairwise (· < ·)) : climb last wanted = wanted := by
  induction wanted generalizing last with
  | nil => rfl
  | cons w ws ih =>
    obtain ⟨-, hws, hlast⟩ := List.pairwise_append.mp increasing
    have hfirst : climbFrom last w = w := by
      cases last with
      | none => rfl
      | some t =>
        have hlt : t < w := hlast t (List.mem_singleton_self t) w List.mem_cons_self
        exact max_eq_left hlt
    have hrest : climb (some w) ws = ws := ih hws
    rw [climb, hfirst, hrest]

/-- Stamps that are all wanted at zero count up from there. -/
theorem climb_replicate_zero (n : ℕ) :
    climb none (List.replicate n 0) = (List.range n).map Nat.cast := by
  induction n with
  | zero => rfl
  | succ n ih =>
    -- One more stamp comes right after the last one, if there is one.
    have hnext : climbFrom (((List.range n).map Nat.cast).getLast?.or none) 0 = n := by
      cases n with
      | zero => rfl
      | succ m =>
        rw [List.range_succ, List.map_append, List.map_singleton, List.getLast?_concat]
        show max (0 : ℤ) (m + 1) = _
        push_cast
        omega
    rw [List.replicate_succ', climb_concat, ih, hnext, List.range_succ, List.map_append,
      List.map_singleton]

end Framecast

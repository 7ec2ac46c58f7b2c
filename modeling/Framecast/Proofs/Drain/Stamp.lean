import Framecast.Container.Drain

/-!
# Stamps

The stamp of a packet is the wanted one, or the tick after the last packet's where the wanted one
does not come after it; there is none where that tick overflows.
-/

namespace Framecast

/-- The tick after a timestamp, as an integer. -/
theorem toInt_tickAfter {t u : Int64} (h : tickAfter t = .ok u) : u.toInt = t.toInt + 1 := by
  unfold tickAfter at h
  split at h
  · cases h
  · rename_i hmax
    obtain rfl := Except.ok.inj h
    -- The last tick is excluded, so that adding one does not wrap.
    have hlt : t.toInt < 2 ^ 63 - 1 := by
      have hle := t.toInt_le
      have hne : t.toInt ≠ Int64.maxValue.toInt := fun he => hmax (Int64.toInt_inj.mp he)
      rw [Int64.toInt_maxValue] at hle hne
      omega
    have hge := t.le_toInt
    rw [Int64.toInt_add, Int64.toInt_one]
    exact Int.bmod_eq_of_le (by omega) (by omega)

/-- A stamp comes after the last packet's. -/
theorem lt_of_nextStamp {t wanted ts : Int64} (h : nextStamp (some t) wanted = .ok ts) :
    t < ts := by
  unfold nextStamp at h
  dsimp only at h
  split at h
  · have hts := toInt_tickAfter h
    rw [Int64.lt_iff_toInt_lt]
    omega
  · rename_i hlt
    obtain rfl := Except.ok.inj h
    exact Int64.not_le.mp hlt

/-- The only overflow of a stamp is that of the tick after the last one. -/
theorem nextStamp_error {last : Option Int64} {wanted : Int64} {x : Overflow}
    (h : nextStamp last wanted = .error x) : x = .addition := by
  unfold nextStamp tickAfter at h
  cases last with
  | none => cases h
  | some t =>
    dsimp only at h
    split at h
    · split at h
      · exact (Except.error.inj h).symm
      · cases h
    · cases h

end Framecast

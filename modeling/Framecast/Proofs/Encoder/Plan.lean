import Framecast.Encoder.Plan
import Framecast.Proofs.Calls

/-!
# The parameters of an encoder

A request is refused for its size and its frame rate before any implementation is looked up
(`isUsable_iff`); after that the first registered candidate is taken (`value_firstRegistered`) and
its parameters follow without overflow (`Suits`, `plan_suits`). `configure_parameters` puts this
together, and says that a higher tier or a larger picture does not lower the bit rate.
-/

namespace Framecast

open Journaled

/-! ## Looking implementations up -/

/-- The first registered name is taken. -/
theorem value_firstRegistered (has : String → Bool) (names : List String) :
    (firstRegistered has names).value = names.find? has := by
  induction names with
  | nil => rfl
  | cons name names ih => cases hn : has name <;> simp [firstRegistered, hn, ih]

/-- The names are looked up in order, up to the first registered one. -/
theorem calls_firstRegistered (has : String → Bool) (names : List String) :
    (firstRegistered has names).calls =
      (names.take (names.findIdx has + 1)).map fun name => .hasEncoder name (has name) := by
  induction names with
  | nil => rfl
  | cons name names ih =>
    cases hn : has name <;> simp [firstRegistered, hn, ih, List.findIdx_cons]

/-- Choosing an implementation, by the first registered one. -/
theorem value_selectEncoder (has : String → Bool) (family : Codec) :
    (selectEncoder has family).value =
      match family.candidates.find? has with
      | some name => .ok name
      | none => .error (.unavailable family family.candidates) := by
  unfold selectEncoder
  rw [value_bind, value_firstRegistered]
  cases family.candidates.find? has <;> rfl

/-- Choosing an implementation looks its candidates up and does nothing else. -/
theorem calls_selectEncoder (has : String → Bool) (family : Codec) :
    (selectEncoder has family).calls =
      (family.candidates.take (family.candidates.findIdx has + 1)).map
        fun name => .hasEncoder name (has name) := by
  unfold selectEncoder
  rw [calls_bind, calls_firstRegistered]
  cases (firstRegistered has family.candidates).value <;> simp

/-! ## Sizes -/

/-- A number is its lowest bit and the rest. -/
theorem clear_add_lowest (n : UInt32) : (n &&& ~~~1) + (n &&& 1) = n := by
  have hdisjoint : (n.toBitVec &&& ~~~1#32) &&& (n.toBitVec &&& 1#32) = 0#32 := by
    ext i
    simp only [BitVec.getElem_and, BitVec.getElem_not]
    cases n.toBitVec[i] <;> cases (1#32)[i] <;> simp
  have hjoin : (n.toBitVec &&& ~~~1#32) ||| (n.toBitVec &&& 1#32) = n.toBitVec := by
    ext i
    simp only [BitVec.getElem_or, BitVec.getElem_and, BitVec.getElem_not]
    cases n.toBitVec[i] <;> cases (1#32)[i] <;> rfl
  apply UInt32.toBitVec_inj.mp
  exact (BitVec.add_eq_or_of_and_eq_zero _ _ hdisjoint).trans hjoin

/-- Rounding down to even clears the lowest bit. -/
theorem evenFloor_eq (n : UInt32) : evenFloor n = n &&& ~~~1 := by
  have hlowest : n &&& 1 = n % 2 := UInt32.toNat_inj.mp (by simp)
  unfold evenFloor
  rw [← hlowest, UInt32.sub_eq_iff_eq_add]
  exact (clear_add_lowest n).symm

/-- Rounding down to even takes the remainder away. -/
theorem toNat_evenFloor (n : UInt32) : (evenFloor n).toNat = n.toNat - n.toNat % 2 := by
  have hle : n % 2 ≤ n := by
    rw [UInt32.le_iff_toNat_le, UInt32.toNat_mod]
    exact Nat.mod_le _ _
  unfold evenFloor
  rw [UInt32.toNat_sub_of_le _ _ hle, UInt32.toNat_mod]
  rfl

/-- What is left is even, and at most one less than the number. -/
theorem evenFloor_bounds (n : UInt32) :
    (evenFloor n).toNat % 2 = 0 ∧ (evenFloor n).toNat ≤ n.toNat ∧
      n.toNat ≤ (evenFloor n).toNat + 1 := by
  rw [toNat_evenFloor]
  omega

/-- Rounding down to even keeps the order. -/
theorem evenFloor_mono {m n : UInt32} (h : m ≤ n) :
    (evenFloor m).toNat ≤ (evenFloor n).toNat := by
  rw [UInt32.le_iff_toNat_le] at h
  rw [toNat_evenFloor, toNat_evenFloor]
  omega

/-- What is left of a number after rounding down is positive if the number was not less than two. -/
theorem evenFloor_pos_iff (n : UInt32) : 0 < evenFloor n ↔ ¬ n < 2 := by
  rw [UInt32.lt_iff_toNat_lt, UInt32.lt_iff_toNat_lt, toNat_evenFloor]
  show 0 < n.toNat - n.toNat % 2 ↔ ¬ n.toNat < 2
  omega

/-! ## Requests -/

/-- How high a tier is. -/
def Tier.rank : Tier → Nat
  | .low => 0
  | .medium => 1
  | .high => 2

/-- A higher tier does not have a lower floor. -/
theorem Tier.floor_mono {a b : Tier} (family : Codec) (h : a.rank ≤ b.rank) :
    (a.profile family).bitRateFloor.toNat ≤ (b.profile family).bitRateFloor.toNat := by
  cases family <;> cases a <;> cases b <;> first | decide | exact absurd h (by decide)

/-- The floor of a tier leaves room for the pixels. -/
theorem Tier.floor_le (tier : Tier) (family : Codec) :
    (tier.profile family).bitRateFloor.toNat ≤ 15000000 := by
  cases tier <;> cases family <;> decide

/-- The quantizers of a tier are in order. -/
theorem Tier.quantizers (tier : Tier) (family : Codec) :
    (tier.profile family).qmin < (tier.profile family).qmax := by
  cases tier <;> cases family <;> decide

namespace EncoderRequest

/-- The request asks for too small a picture, for no frames, or for more of them per second than a
signed number holds. -/
def Degenerate (r : EncoderRequest) : Prop :=
  r.width < 2 ∨ r.height < 2 ∨ r.fps = 0 ∨ 2147483648 ≤ r.fps.toNat

/-- Whether a request is degenerate can be computed. -/
instance : DecidablePred Degenerate := fun r =>
  inferInstanceAs (Decidable (r.width < 2 ∨ r.height < 2 ∨ r.fps = 0 ∨ 2147483648 ≤ r.fps.toNat))

/-- A request is usable if it is not degenerate. -/
theorem isUsable_iff (r : EncoderRequest) : r.isUsable = true ↔ ¬ r.Degenerate := by
  have hfps : 0 < r.fps ↔ ¬ r.fps = 0 := by
    rw [UInt32.lt_iff_toNat_lt, ← UInt32.toNat_inj]
    show 0 < r.fps.toNat ↔ ¬ r.fps.toNat = 0
    omega
  have hmost : r.fps ≤ Int32.maxValue.toUInt32 ↔ ¬ 2147483648 ≤ r.fps.toNat := by
    rw [UInt32.le_iff_toNat_le]
    show r.fps.toNat ≤ 2147483647 ↔ ¬ 2147483648 ≤ r.fps.toNat
    omega
  unfold isUsable Degenerate
  simp only [Bool.and_eq_true, decide_eq_true_eq, not_or, evenFloor_pos_iff, hfps, hmost, and_assoc]

/-- The parameters follow from the request: even sizes that fall short by a row or a column at most,
quantizers in order, and the bit rate of the tier for so many pixels, all within 64 bits. -/
structure Suits (config : EncoderConfig) (r : EncoderRequest) : Prop where
  /-- The size is the one asked for, with the lowest bits cleared. -/
  cleared : config.width = r.width &&& ~~~1 ∧ config.height = r.height &&& ~~~1
  /-- It is even. -/
  even : config.width.toNat % 2 = 0 ∧ config.height.toNat % 2 = 0
  /-- It is at most as wide as asked for, and one column narrower at most. -/
  width : config.width.toNat ≤ r.width.toNat ∧ r.width.toNat ≤ config.width.toNat + 1
  /-- It is at most as high as asked for, and one row lower at most. -/
  height : config.height.toNat ≤ r.height.toNat ∧ r.height.toNat ≤ config.height.toNat + 1
  /-- There is room between the quantizers. -/
  quantizers : config.qmin < config.qmax
  /-- The number of pixels fits 64 bits. -/
  pixels : config.width.toNat * config.height.toNat < UInt64.size
  /-- So does the bit rate, which is the floor of the tier and half a bit for each pixel. -/
  bitRate : config.bitRate.toNat = (r.tier.profile r.family).bitRateFloor.toNat +
    config.width.toNat * config.height.toNat / 2

/-- The product of two sizes fits 64 bits. -/
theorem size_mul_lt (width height : UInt32) : width.toNat * height.toNat < UInt64.size :=
  Nat.mul_lt_mul'' width.toNat_lt_size height.toNat_lt_size

/-- The plan of a request suits it. -/
theorem plan_suits (r : EncoderRequest) (name : String) : Suits (r.plan name) r := by
  obtain ⟨hweven, hwidth⟩ := evenFloor_bounds r.width
  obtain ⟨hheven, hheight⟩ := evenFloor_bounds r.height
  have hpixels := size_mul_lt (evenFloor r.width) (evenFloor r.height)
  have hfloor := r.tier.floor_le r.family
  refine ⟨⟨evenFloor_eq _, evenFloor_eq _⟩, ⟨hweven, hheven⟩, hwidth, hheight,
    r.tier.quantizers r.family, hpixels, ?_⟩
  -- Neither the product nor the sum wraps around, since half of 64 bits and the floor fit.
  have hproduct : ((evenFloor r.width).toUInt64 * (evenFloor r.height).toUInt64).toNat =
      (evenFloor r.width).toNat * (evenFloor r.height).toNat := by
    rw [UInt64.toNat_mul, UInt32.toNat_toUInt64, UInt32.toNat_toUInt64]
    exact Nat.mod_eq_of_lt hpixels
  have hsum : (r.tier.profile r.family).bitRateFloor.toNat +
      (evenFloor r.width).toNat * (evenFloor r.height).toNat / 2 < UInt64.size := by
    have hsize : UInt64.size = 18446744073709551616 := rfl
    omega
  show ((r.tier.profile r.family).bitRateFloor +
    (evenFloor r.width).toUInt64 * (evenFloor r.height).toUInt64 / 2).toNat = _
  rw [UInt64.toNat_add, UInt64.toNat_div, hproduct]
  exact Nat.mod_eq_of_lt hsum

/-- For one family, a higher tier and a larger picture do not lower the bit rate. -/
theorem Suits.bitRate_le {r r' : EncoderRequest} {config config' : EncoderConfig}
    (h : Suits config r) (h' : Suits config' r') (family : r.family = r'.family)
    (tier : r.tier.rank ≤ r'.tier.rank) (width : r.width ≤ r'.width)
    (height : r.height ≤ r'.height) : config.bitRate ≤ config'.bitRate := by
  have hfloor : (r.tier.profile r.family).bitRateFloor.toNat ≤
      (r'.tier.profile r'.family).bitRateFloor.toNat := by
    rw [← family]
    exact Tier.floor_mono r.family tier
  have hwidth : config.width.toNat ≤ config'.width.toNat := by
    rw [h.cleared.1, h'.cleared.1, ← evenFloor_eq, ← evenFloor_eq]
    exact evenFloor_mono width
  have hheight : config.height.toNat ≤ config'.height.toNat := by
    rw [h.cleared.2, h'.cleared.2, ← evenFloor_eq, ← evenFloor_eq]
    exact evenFloor_mono height
  have hpixels := Nat.div_le_div_right (c := 2) (Nat.mul_le_mul hwidth hheight)
  rw [UInt64.le_iff_toNat_le, h.bitRate, h'.bitRate]
  omega

end EncoderRequest

/-! ## Planning -/

/-- Parameters for a degenerate request are not looked for. -/
theorem configure_degenerate (has : String → Bool) {r : EncoderRequest} (h : r.Degenerate) :
    (configure has r).value = .error (.invalidGeometry r.width r.height r.fps) ∧
      (configure has r).calls = [] := by
  have hu : r.isUsable = false := Bool.eq_false_iff.mpr fun ht => r.isUsable_iff.mp ht h
  simp [configure, hu]

/-- Any other request is planned for the implementation that is chosen. -/
theorem configure_usable (has : String → Bool) {r : EncoderRequest} (h : ¬ r.Degenerate) :
    (configure has r).value = (selectEncoder has r.family).value.map r.plan ∧
      (configure has r).calls = (selectEncoder has r.family).calls := by
  have hu : r.isUsable = true := r.isUsable_iff.mpr h
  rcases hs : (selectEncoder has r.family).value with e | name <;>
    simp [configure, hu, hs, Except.map]

/-- The candidates of a request that is not degenerate are looked up until one is registered. -/
theorem calls_configure (has : String → Bool) (r : EncoderRequest) :
    (configure has r).calls = if r.Degenerate then [] else
      (r.family.candidates.take (r.family.candidates.findIdx has + 1)).map
        fun name => .hasEncoder name (has name) := by
  split
  · next h => exact (configure_degenerate has h).2
  · next h => exact (configure_usable has h).2.trans (calls_selectEncoder has r.family)

/-- Planning an encoder looks implementations up and does nothing else. -/
theorem lookups_configure (has : String → Bool) (r : EncoderRequest) :
    ∀ c ∈ (configure has r).calls, ∃ name, c = .hasEncoder name (has name) := by
  intro c hc
  rw [calls_configure] at hc
  split at hc
  · cases hc
  · obtain ⟨name, -, rfl⟩ := List.mem_map.mp hc
    exact ⟨name, rfl⟩

/-- A request is refused for its geometry exactly if it is degenerate. -/
theorem configure_invalidGeometry_iff {has : String → Bool} {r : EncoderRequest} :
    (configure has r).value = .error (.invalidGeometry r.width r.height r.fps) ↔ r.Degenerate := by
  by_cases h : r.Degenerate
  · simp [(configure_degenerate has h).1, h]
  · rw [(configure_usable has h).1, value_selectEncoder]
    cases r.family.candidates.find? has <;> simp [Except.map, h]

/-- It finds no encoder exactly if it is not degenerate and no candidate is registered. -/
theorem configure_unavailable_iff {has : String → Bool} {r : EncoderRequest} :
    (configure has r).value = .error (.unavailable r.family r.family.candidates) ↔
      ¬ r.Degenerate ∧ ∀ name ∈ r.family.candidates, has name = false := by
  have hnone : r.family.candidates.find? has = none ↔
      ∀ name ∈ r.family.candidates, has name = false := by
    simp [List.find?_eq_none]
  rw [← hnone]
  by_cases h : r.Degenerate
  · simp [(configure_degenerate has h).1, h]
  · rw [(configure_usable has h).1, value_selectEncoder]
    cases r.family.candidates.find? has <;> simp [Except.map, h]

/-- The parameters that are found for a request are those of its plan, for the first candidate that
is registered. -/
theorem configure_ok_iff {has : String → Bool} {r : EncoderRequest} {config : EncoderConfig} :
    (configure has r).value = .ok config ↔ ¬ r.Degenerate ∧
      ∃ name, r.family.candidates.find? has = some name ∧ config = r.plan name := by
  by_cases h : r.Degenerate
  · rw [(configure_degenerate has h).1]
    simp [h]
  · rw [(configure_usable has h).1, value_selectEncoder]
    cases r.family.candidates.find? has <;> simp [Except.map, h, eq_comm]

/-- The parameters that are found for a request are those of its plan, for some implementation. -/
theorem plan_of_configure {has : String → Bool} {r : EncoderRequest} {config : EncoderConfig}
    (h : (configure has r).value = .ok config) : ∃ name, config = r.plan name := by
  obtain ⟨-, name, -, hplan⟩ := configure_ok_iff.mp h
  exact ⟨name, hplan⟩

/-- A request is refused for its size or its frame rate exactly if it asks for fewer than two
columns or rows, for no frames, or for `2^31` frames per second or more, and then nothing is looked
up. Any other request has the candidates of its family looked up in order until one is registered.
If none is, no encoder is available. Otherwise the parameters name that first one: the size is the
one asked for with the lowest bits cleared, which makes it even and at most one smaller; the lower
quantizer is below the upper one; and the bit rate is the floor of the tier and half the number of
pixels, nothing of which overflows. For one registry and family, the bit rate is monotone in the
tier, the width and the height. -/
theorem configure_parameters (has : String → Bool) (r : EncoderRequest) :
    let planned := configure has r
    let candidates := r.family.candidates
    (planned.value = .error (.invalidGeometry r.width r.height r.fps) ↔ r.Degenerate) ∧
    planned.calls = (if r.Degenerate then [] else
      (candidates.take (candidates.findIdx has + 1)).map fun name =>
        .hasEncoder name (has name)) ∧
    (planned.value = .error (.unavailable r.family candidates) ↔
      ¬ r.Degenerate ∧ ∀ name ∈ candidates, has name = false) ∧
    (¬ r.Degenerate → ∀ name, candidates.find? has = some name →
      ∃ config, planned.value = .ok config ∧ config.encoderName = name ∧
        EncoderRequest.Suits config r) ∧
    ∀ (r' : EncoderRequest) (config config' : EncoderConfig), planned.value = .ok config →
      (configure has r').value = .ok config' → r.family = r'.family →
      r.tier.rank ≤ r'.tier.rank → r.width ≤ r'.width → r.height ≤ r'.height →
      config.bitRate ≤ config'.bitRate := by
  intro planned candidates
  refine ⟨configure_invalidGeometry_iff, calls_configure has r, configure_unavailable_iff, ?_, ?_⟩
  · intro husable name hfound
    have hvalue : planned.value = .ok (r.plan name) :=
      configure_ok_iff.mpr ⟨husable, name, hfound, rfl⟩
    exact ⟨r.plan name, hvalue, rfl, r.plan_suits name⟩
  · intro r' config config' h h' family tier width height
    obtain ⟨name, rfl⟩ := plan_of_configure h
    obtain ⟨name', rfl⟩ := plan_of_configure h'
    exact (r.plan_suits name).bitRate_le (r'.plan_suits name') family tier width height

/-- Where only the second candidate is registered it is taken, for the largest picture of the
highest tier, whose bit rate fits and is no lower than that of a small picture. A picture of one
column is refused before that. -/
theorem configure_parameters_sample :
    let has : String → Bool := fun name => name = "nvenc_hevc"
    let largest : EncoderRequest := ⟨.high, 4294967295, 4294967295, 2147483647, .hevc, false⟩
    let small := { largest with tier := .low, width := 3, height := 2 }
    let thin := { largest with width := 1 }
    (∃ config config', (configure has small).value = .ok config ∧
        (configure has largest).value = .ok config' ∧ config'.encoderName = "nvenc_hevc" ∧
        config'.width = 4294967294 ∧ config'.bitRate.toNat = 9223372028279841218 ∧
        config.bitRate ≤ config'.bitRate) ∧
      (configure has thin).value = .error (.invalidGeometry 1 4294967295 2147483647) ∧
      (configure has thin).calls = [] := by
  intro has largest small thin
  have hlargest : ¬ largest.Degenerate := by decide
  have hsmall : ¬ small.Degenerate := by decide
  have hthin : thin.Degenerate := by decide
  have hfound : Codec.hevc.candidates.find? has = some "nvenc_hevc" := by decide
  obtain ⟨-, -, -, hlargest', -⟩ := configure_parameters has largest
  obtain ⟨-, -, -, hsmall', hmono⟩ := configure_parameters has small
  obtain ⟨hrefused, hcalls, -, -, -⟩ := configure_parameters has thin
  obtain ⟨config', hvalue', hname', hsuits'⟩ := hlargest' hlargest _ hfound
  obtain ⟨config, hvalue, -, -⟩ := hsmall' hsmall _ hfound
  have hle := hmono largest config config' hvalue hvalue' rfl (by decide) (by decide) (by decide)
  have hwidth : config'.width = 4294967294 := hsuits'.cleared.1.trans (by decide)
  have hheight : config'.height = 4294967294 := hsuits'.cleared.2.trans (by decide)
  have hrate : config'.bitRate.toNat = 9223372028279841218 := by
    rw [hsuits'.bitRate, hwidth, hheight]
    decide
  rw [if_pos hthin] at hcalls
  exact ⟨⟨config, config', hvalue, hvalue', hname', hwidth, hrate, hle⟩, hrefused.mpr hthin, hcalls⟩

end Framecast

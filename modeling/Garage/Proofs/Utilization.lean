/-
# How full a garage is

Utilizations are whole numbers of percent.  Whether a number is below or above one of them is a
comparison of products, without any division (`le_percent_iff`, `percent_le_iff`), and such
comparisons may be added up over the zones of a garage.

* `isNearestPercent_iff`: what is computed is the nearest whole number, halves upwards.
* `percent_words`: as long as nothing overflows, words of 64 bits give the same.
* `le_utilization` and `utilization_le`: what bounds the utilizations of all zones bounds that of
  the garage, though each of them is rounded for itself.
-/
import Garage.Proofs.Summary
import Mathlib.Algebra.BigOperators.Ring.List
import Mathlib.Algebra.Order.BigOperators.Group.List
import Mathlib.Algebra.Order.Ring.Nat
import Mathlib.Order.Lattice.Nat
import Mathlib.Tactic.Zify

namespace Garage

variable {part whole k : Nat}

/-! ### Percentages -/

/-- `u` percent are at most half a percent above the share and less than half a percent below it. -/
def IsNearestPercent (part whole : Nat) (u : Int) : Prop :=
  (2 * u - 1) * whole ≤ 200 * part ∧ 200 * part < (2 * u + 1) * whole

lemma percent_of_pos (hpos : 0 < whole) :
    percent part whole = (part * 100 + whole / 2) / whole :=
  if_neg (Nat.pos_iff_ne_zero.mp hpos)

lemma le_percent_iff (hpos : 0 < whole) :
    k ≤ percent part whole ↔ 2 * k * whole ≤ 200 * part + whole := by
  rw [percent_of_pos hpos, Nat.le_div_iff_mul_le hpos, Nat.mul_assoc]
  omega

lemma percent_le_iff (hpos : 0 < whole) :
    percent part whole ≤ k ↔ 200 * part < (2 * k + 1) * whole := by
  rw [percent_of_pos hpos, ← Nat.lt_succ_iff, Nat.div_lt_iff_lt_mul hpos, Nat.succ_mul,
    Nat.add_mul, Nat.one_mul, Nat.mul_assoc]
  omega

lemma isNearestPercent_natCast (u : Nat) : IsNearestPercent part whole u ↔
    2 * u * whole ≤ 200 * part + whole ∧ 200 * part < (2 * u + 1) * whole := by
  rw [IsNearestPercent, Int.sub_mul, Int.one_mul]
  zify
  omega

/-- There is just one nearest whole number of percent, and this is what is computed. -/
lemma isNearestPercent_iff (hpos : 0 < whole) (u : Int) :
    IsNearestPercent part whole u ↔ u = percent part whole := by
  cases u with
  | ofNat u =>
    rw [Int.ofNat_eq_natCast, isNearestPercent_natCast, ← le_percent_iff hpos,
      ← percent_le_iff hpos]
    omega
  | negSucc u =>
    -- A negative number of percent is below every share by more than half a percent.
    have hneg : (2 * Int.negSucc u + 1) * whole ≤ 0 :=
      Int.mul_nonpos_of_nonpos_of_nonneg (by omega) (by omega)
    constructor
    · rintro ⟨-, hlt⟩
      omega
    · intro hu
      omega

/-- Nothing overflows if the largest number on the way does not. -/
lemma percent_words (part whole : UInt64)
    (hlt : 100 * part.toNat + whole.toNat / 2 < 2 ^ 64) :
    ((part * 100 + whole / 2) / whole).toNat = percent part.toNat whole.toNat := by
  have hmul : (part * 100).toNat = part.toNat * 100 := by
    rw [UInt64.toNat_mul]
    exact Nat.mod_eq_of_lt (by show part.toNat * 100 < 2 ^ 64; omega)
  have hadd : (part * 100 + whole / 2).toNat = part.toNat * 100 + whole.toNat / 2 := by
    rw [UInt64.toNat_add, hmul, UInt64.toNat_div]
    exact Nat.mod_eq_of_lt (by show part.toNat * 100 + whole.toNat / 2 < 2 ^ 64; omega)
  rw [UInt64.toNat_div, hadd, percent]
  split
  case isTrue hzero => rw [hzero, Nat.div_zero]
  case isFalse => rfl

/-! ### Zones and the garage -/

namespace Summary

variable {s : Summary}

/-- The utilizations of the zones that have slots at all. -/
def zoneUtilizations (s : Summary) : Set Nat :=
  {u | ∃ z ∈ s.zones, 0 < z.capacity ∧ z.utilization = u}

lemma totalSlots_pos (hpos : ∃ z ∈ s.zones, 0 < z.capacity) : 0 < s.totalSlots := by
  obtain ⟨z, hz, hcapacity⟩ := hpos
  rw [totalSlots_eq_sum]
  exact Nat.lt_of_lt_of_le hcapacity (List.le_sum_of_mem (List.mem_map_of_mem hz))

/-- If every zone with slots is full to `k` percent, then so is the garage. -/
lemma le_utilization (hpos : ∃ z ∈ s.zones, 0 < z.capacity)
    (hk : ∀ z ∈ s.zones, 0 < z.capacity → k ≤ z.utilization) : k ≤ s.utilization := by
  have hzone : ∀ z ∈ s.zones, 2 * k * z.capacity ≤ 200 * z.occupied + z.capacity := by
    intro z hz
    rcases Nat.eq_zero_or_pos z.capacity with hzero | hcapacity
    · simp [hzero]
    · exact (le_percent_iff hcapacity).mp (hk z hz hcapacity)
  rw [utilization, le_percent_iff (totalSlots_pos hpos), totalSlots_eq_sum, occupiedSlots_eq_sum]
  calc 2 * k * (s.zones.map (·.capacity)).sum
      = (s.zones.map fun z => 2 * k * z.capacity).sum := (List.sum_map_mul_left ..).symm
    _ ≤ (s.zones.map fun z => 200 * z.occupied + z.capacity).sum := List.sum_le_sum hzone
    _ = 200 * (s.zones.map (·.occupied)).sum + (s.zones.map (·.capacity)).sum := by
        rw [List.sum_map_add, List.sum_map_mul_left]

/-- If no zone with slots is fuller than `k` percent, then the garage is not either.  Here it
matters that in a zone without slots nothing is taken. -/
lemma utilization_le (hfits : ∀ z ∈ s.zones, z.occupied ≤ z.capacity)
    (hpos : ∃ z ∈ s.zones, 0 < z.capacity)
    (hk : ∀ z ∈ s.zones, 0 < z.capacity → z.utilization ≤ k) : s.utilization ≤ k := by
  have hzone : ∀ z ∈ s.zones, 0 < z.capacity →
      200 * z.occupied < (2 * k + 1) * z.capacity := by
    intro z hz hcapacity
    exact (percent_le_iff hcapacity).mp (hk z hz hcapacity)
  have hzone' : ∀ z ∈ s.zones, 200 * z.occupied ≤ (2 * k + 1) * z.capacity := by
    intro z hz
    rcases Nat.eq_zero_or_pos z.capacity with hzero | hcapacity
    · have hfit := hfits z hz
      rw [hzero, Nat.le_zero] at hfit
      simp [hfit]
    · exact (hzone z hz hcapacity).le
  rw [utilization, percent_le_iff (totalSlots_pos hpos), totalSlots_eq_sum, occupiedSlots_eq_sum]
  obtain ⟨z, hz, hcapacity⟩ := hpos
  calc 200 * (s.zones.map (·.occupied)).sum
      = (s.zones.map fun z => 200 * z.occupied).sum := (List.sum_map_mul_left ..).symm
    _ < (s.zones.map fun z => (2 * k + 1) * z.capacity).sum :=
        List.sum_lt_sum _ _ hzone' ⟨z, hz, hzone z hz hcapacity⟩
    _ = (2 * k + 1) * (s.zones.map (·.capacity)).sum := List.sum_map_mul_left ..

lemma exists_isLeast_zoneUtilizations (hpos : ∃ z ∈ s.zones, 0 < z.capacity) :
    ∃ lo, IsLeast s.zoneUtilizations lo := by
  obtain ⟨z, hz, hcapacity⟩ := hpos
  exact ⟨_, Nat.sInf_mem ⟨_, z, hz, hcapacity, rfl⟩, fun _ hu => Nat.sInf_le hu⟩

lemma exists_isGreatest_zoneUtilizations (hfits : ∀ z ∈ s.zones, z.occupied ≤ z.capacity)
    (hpos : ∃ z ∈ s.zones, 0 < z.capacity) : ∃ hi, IsGreatest s.zoneUtilizations hi := by
  obtain ⟨z, hz, hcapacity⟩ := hpos
  have hbdd : BddAbove s.zoneUtilizations := by
    refine ⟨100, ?_⟩
    rintro u ⟨z, hz, -, rfl⟩
    exact percent_le_hundred (hfits z hz)
  exact ⟨_, Nat.sSup_mem ⟨_, z, hz, hcapacity, rfl⟩ hbdd, fun _ hu => le_csSup hbdd hu⟩

end Summary

/-- **Percentages are rounded to the nearest, and a garage is as full as its zones.**  The first two
statements are about a single percentage: of the whole numbers just one is nearest to the share,
halves going upwards, and words of 64 bits are enough to find it if none of the numbers on the way
overflows.  The third one is about summaries, in which some zones may have no slots. -/
theorem utilization_nearest_and_between :
    (∀ part whole : Nat, 0 < whole → ∀ u : Int,
      IsNearestPercent part whole u ↔ u = percent part whole) ∧
    (∀ part whole : UInt64, 100 * part.toNat + whole.toNat / 2 < 2 ^ 64 →
      ((part * 100 + whole / 2) / whole).toNat = percent part.toNat whole.toNat) ∧
    ∀ s : Summary, (∀ z ∈ s.zones, z.occupied ≤ z.capacity) →
      (∃ z ∈ s.zones, 0 < z.capacity) →
      ∃ lo hi, IsLeast s.zoneUtilizations lo ∧ IsGreatest s.zoneUtilizations hi ∧
        lo ≤ s.utilization ∧ s.utilization ≤ hi := by
  refine ⟨fun part whole hpos u => isNearestPercent_iff hpos u, percent_words, ?_⟩
  intro s hfits hpos
  obtain ⟨lo, hlo⟩ := Summary.exists_isLeast_zoneUtilizations hpos
  obtain ⟨hi, hhi⟩ := Summary.exists_isGreatest_zoneUtilizations hfits hpos
  refine ⟨lo, hi, hlo, hhi, ?_, ?_⟩
  · exact Summary.le_utilization hpos fun z hz hcapacity => hlo.2 ⟨z, hz, hcapacity, rfl⟩
  · exact Summary.utilization_le hfits hpos fun z hz hcapacity => hhi.2 ⟨z, hz, hcapacity, rfl⟩

/-- One of eight is twelve percent and a half, which goes upwards.  With a zone that has no slots
between the two others, the garage is fuller than the one and less full than the other. -/
theorem utilization_nearest_and_between_three :
    IsNearestPercent 1 8 13 ∧
    (((1 : UInt64) * 100 + 7 / 2) / 7).toNat = percent 1 7 ∧
    let s : Summary := ⟨[⟨1, 8, 1⟩, ⟨2, 0, 0⟩, ⟨3, 7, 2⟩], 0⟩
    (∃ lo hi, IsLeast s.zoneUtilizations lo ∧ IsGreatest s.zoneUtilizations hi ∧
      lo ≤ s.utilization ∧ s.utilization ≤ hi) ∧
    s.zones.map (·.utilization) = [13, 0, 29] ∧ s.utilization = 20 := by
  obtain ⟨hnearest, hwords, hbetween⟩ := utilization_nearest_and_between
  exact ⟨(hnearest 1 8 (by decide) 13).mpr (by decide), hwords 1 7 (by decide),
    hbetween _ (by decide) (by decide), by decide, by decide⟩

end Garage

/-
# The policy behind the choice of a slot

Positions are ordered by zone, then by area, then by slot (`Handle.lt_iff`).  In this order

* a vehicle gets the least free position in the first zone with the id that it asks for;
* if there is none, it gets the least free position in all zones with other ids;
* if there is none either, it gets nothing.

So no slot is passed over and none is missed, whatever zones there are: `choice_follows_policy`.
Both searches of `Registry.choose` are searches of the free positions in their order, and the
first hit in a sorted list is the least one (`isLeast_of_find?`).
-/
import Garage.Proofs.Choice
import Mathlib.Order.Bounds.Defs

namespace Garage

/-- The order in which slots are searched, with equality. -/
instance : LE Handle where
  le h k := h < k ∨ h = k

section Sorted

variable {l : List Handle} {P : Handle → Bool} {h : Handle}

/-- In a sorted list, the first position with a property is the least one. -/
lemma isLeast_of_find? (hl : l.Pairwise (· < ·)) (hf : l.find? P = some h) :
    IsLeast {k | k ∈ l ∧ P k = true} h := by
  obtain ⟨hP, before, behind, rfl, hbefore⟩ := List.find?_eq_some_iff_append.mp hf
  refine ⟨⟨by simp, hP⟩, ?_⟩
  rintro k ⟨hk, hPk⟩
  rw [List.mem_append, List.mem_cons] at hk
  rcases hk with hk | rfl | hk
  · have hnot := hbefore k hk
    rw [hPk] at hnot
    exact absurd hnot (by decide)
  · exact Or.inr rfl
  · obtain ⟨-, hsorted, -⟩ := List.pairwise_append.mp hl
    exact Or.inl ((List.pairwise_cons.mp hsorted).1 k hk)

lemma exists_find?_isLeast (hl : l.Pairwise (· < ·)) (hne : {k | k ∈ l ∧ P k = true}.Nonempty) :
    ∃ h, l.find? P = some h ∧ IsLeast {k | k ∈ l ∧ P k = true} h := by
  obtain ⟨k, hk, hP⟩ := hne
  obtain ⟨h, hf⟩ := Option.isSome_iff_exists.mp (List.find?_isSome.mpr ⟨k, hk, hP⟩)
  exact ⟨h, hf, isLeast_of_find? hl hf⟩

lemma find?_eq_none_iff_not_nonempty :
    l.find? P = none ↔ ¬ {k | k ∈ l ∧ P k = true}.Nonempty := by
  rw [List.find?_eq_none]
  constructor
  · rintro hnone ⟨k, hk, hP⟩
    exact hnone k hk hP
  · intro hnot k hk hP
    exact hnot ⟨k, hk, hP⟩

end Sorted

namespace Registry

/-- The positions of the free slots in the first zone with an id. -/
def freeAtHome (r : Registry) (id : ZoneId) : Set Handle :=
  {h | (∃ p, r.slot? h = some p ∧ p.available = true) ∧
    (∃ z, r.zones[h.zone]? = some z ∧ z.id = id) ∧
    ∀ i < h.zone, ∀ z, r.zones[i]? = some z → z.id ≠ id}

/-- The positions of the free slots in all zones with other ids. -/
def freeOutside (r : Registry) (id : ZoneId) : Set Handle :=
  {h | (∃ p, r.slot? h = some p ∧ p.available = true) ∧
    ∃ z, r.zones[h.zone]? = some z ∧ z.id ≠ id}

/-- The places of the zones with other ids, in order. -/
def otherZones (r : Registry) (id : ZoneId) : List Nat :=
  (List.range r.zones.length).filter fun i => r.zones[i]?.any (·.id != id)

variable {r : Registry} {id : ZoneId} {h : Handle}

lemma isHome_iff : r.isHome id h = true ↔ (∃ z, r.zones[h.zone]? = some z ∧ z.id = id) ∧
    ∀ i < h.zone, ∀ z, r.zones[i]? = some z → z.id ≠ id := by
  rw [isHome, zoneIdx?, beq_iff_eq, List.findIdx?_eq_some_iff_getElem]
  constructor
  · rintro ⟨hlt, hid, hbefore⟩
    refine ⟨⟨_, List.getElem?_eq_getElem hlt, by simpa using hid⟩, ?_⟩
    intro i hi z hz
    obtain ⟨hilt, rfl⟩ := List.getElem?_eq_some_iff.mp hz
    simpa using hbefore i hi
  · rintro ⟨⟨z, hz, hid⟩, hbefore⟩
    obtain ⟨hlt, rfl⟩ := List.getElem?_eq_some_iff.mp hz
    refine ⟨hlt, by simpa using hid, ?_⟩
    intro i hi
    simpa using hbefore i hi _ (List.getElem?_eq_getElem (by omega))

lemma freeAtHome_eq (r : Registry) (id : ZoneId) :
    r.freeAtHome id = {h | h ∈ r.free ∧ r.isHome id h = true} := by
  ext h
  rw [freeAtHome, Set.mem_ofPred_eq, Set.mem_ofPred_eq, mem_free, isHome_iff]

lemma freeOutside_eq (r : Registry) (id : ZoneId) :
    r.freeOutside id = {h | h ∈ r.free ∧ r.isOutside id h = true} := by
  ext h
  rw [freeOutside, Set.mem_ofPred_eq, Set.mem_ofPred_eq, mem_free]
  refine and_congr_right fun hfree => ?_
  obtain ⟨p, hp, -⟩ := hfree
  obtain ⟨z, hz, -⟩ := slot?_eq_some_iff.mp hp
  simp [isOutside, hz]

/-- The fallback tries the zones with other ids one by one. -/
lemma chooseOutside_eq_findSome?_otherZones (r : Registry) (id : ZoneId) :
    r.chooseOutside id = (r.otherZones id).findSome? r.firstAvailableAt := by
  have hrange : List.range r.zones.length = r.zones.zipIdx.map Prod.snd := by
    rw [List.zipIdx_map_snd, List.range_eq_range']
  rw [chooseOutside, otherZones, hrange, ← List.head?_filterMap, ← List.head?_filterMap,
    List.filterMap_filter, List.filterMap_filter, List.filterMap_map]
  -- As heads of lists, the two searches may be compared zone by zone.
  congr 1
  apply List.filterMap_congr
  rintro ⟨z, i⟩ hz
  have hzi : r.zones[i]? = some z := List.mem_zipIdx_iff_getElem?.mp hz
  simp [firstAvailableAt_eq_bind, hzi]

/-- Which slot a vehicle gets that asks for the zone `id`. -/
structure FollowsPolicy (r : Registry) (id : ZoneId) : Prop where
  /-- If there are free slots in the first zone with the id, it gets the first one of them. -/
  at_home : (r.freeAtHome id).Nonempty →
    ∃ h, r.choose id = some h ∧ IsLeast (r.freeAtHome id) h
  /-- Otherwise, if there are free slots in zones with other ids, it gets the first one of them. -/
  outside : ¬ (r.freeAtHome id).Nonempty → (r.freeOutside id).Nonempty →
    ∃ h, r.choose id = some h ∧ IsLeast (r.freeOutside id) h
  /-- It gets no slot only if there are no free slots of either kind. -/
  eq_none_iff : r.choose id = none ↔
    ¬ (r.freeAtHome id).Nonempty ∧ ¬ (r.freeOutside id).Nonempty
  /-- What the registry finds at home is chosen. -/
  of_firstAvailable : ∀ h, r.firstAvailable id = some h → r.choose id = some h
  /-- If it finds nothing at home, then the zones with other ids are tried one by one. -/
  of_firstAvailable_eq_none : r.firstAvailable id = none →
    r.choose id = (r.otherZones id).findSome? r.firstAvailableAt
  /-- The slot that is chosen is there and is free. -/
  is_free : ∀ h, r.choose id = some h → ∃ p, r.slot? h = some p ∧ p.available = true

/-- **The first free slot at home, else the first free slot elsewhere.**  This holds for all zones
that there may be, whether ids are repeated, zones have no areas or areas have no slots. -/
theorem choice_follows_policy (r : Registry) (id : ZoneId) : r.FollowsPolicy id where
  at_home hhome := by
    rw [freeAtHome_eq] at hhome ⊢
    obtain ⟨h, hf, hleast⟩ := exists_find?_isLeast r.free_sorted hhome
    exact ⟨h, by rw [choose_eq, hf, Option.some_or], hleast⟩
  outside hhome hout := by
    rw [freeAtHome_eq, ← find?_eq_none_iff_not_nonempty] at hhome
    rw [freeOutside_eq] at hout ⊢
    obtain ⟨h, hf, hleast⟩ := exists_find?_isLeast r.free_sorted hout
    exact ⟨h, by rw [choose_eq, hhome, Option.none_or, hf], hleast⟩
  eq_none_iff := by
    rw [choose_eq, Option.or_eq_none_iff, freeAtHome_eq, freeOutside_eq,
      find?_eq_none_iff_not_nonempty, find?_eq_none_iff_not_nonempty]
  of_firstAvailable h hf := by
    rw [choose_eq_or, hf, Option.some_or]
  of_firstAvailable_eq_none hf := by
    rw [choose_eq_or, hf, Option.none_or, chooseOutside_eq_findSome?_otherZones]
  is_free h hc := mem_free.mp (mem_free_of_choose hc)

/-- Where three zones have one slot each and the first two share an id, only the first one is home;
when its slot is taken, the second zone is passed over. -/
example :
    let z (id : ZoneId) := (Zone.empty id).addArea (Area.numbered 1 id 1)
    let r := Registry.mk [z 1, z 1, z 2]
    r.choose 1 = some ⟨0, 0, 0⟩ ∧ (r.setAvailable ⟨0, 0, 0⟩ false).choose 1 = some ⟨2, 0, 0⟩ := by
  decide

end Registry

end Garage

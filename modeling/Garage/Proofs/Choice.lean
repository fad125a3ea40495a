/-
# Which slot is chosen

`Registry.choose` searches the tree of zones twice: the first zone with the id that is asked for,
then all zones with other ids.  Both searches are searches of one list, the positions of the free
slots in their order, for the first position with a certain property (`choose_eq`).  From this
follow

* `mem_free_of_choose`: the slot that is chosen is there and is free;
* `choose_setAvailable_of_ne`: when some other slot is taken, the choice stays the same.
-/
import Garage.Allocation
import Garage.Proofs.Positions

namespace Garage

namespace Zone

lemma firstAvailableFrom_eq (i : Nat) (areas : List Area) :
    firstAvailableFrom i areas = (((areas.zipIdx i).flatMap fun (a, j) =>
      a.slots.zipIdx.map fun (p, k) => ((j, k), p)).find? (·.2.available)).map Prod.fst := by
  induction areas generalizing i with
  | nil => rfl
  | cons a rest ih =>
    have harea : a.firstAvailable = (a.slots.zipIdx.find? (·.1.available)).map (·.2) :=
      List.findIdx?_eq_fst_find?_zipIdx
    rw [firstAvailableFrom, harea, ih, List.zipIdx_cons, List.flatMap_cons, List.find?_append,
      List.find?_map, Function.comp_def]
    cases a.slots.zipIdx.find? (·.1.available) <;> rfl

lemma firstAvailable_eq (z : Zone) :
    z.firstAvailable = (z.entries.find? (·.2.available)).map Prod.fst :=
  firstAvailableFrom_eq 0 z.areas

end Zone

/-- What a function does not tell apart does not show in the image of a list. -/
lemma map_modify_eq_map {α β : Type} {f : α → α} {g : α → β} (hfg : ∀ a, g (f a) = g a)
    (l : List α) (i : Nat) : (l.modify i f).map g = l.map g := by
  apply List.ext_getElem?
  intro j
  rw [List.getElem?_map, List.getElem?_modify, List.getElem?_map]
  cases l[j]? with
  | none => rfl
  | some a => by_cases hij : i = j <;> simp [hij, hfg]

/-- Looking for one place among the numbered members of a list. -/
lemma findSome?_zipIdx_eq {α β : Type} (l : List α) (i : Nat) (f : α → Nat → Option β) :
    (l.zipIdx.findSome? fun x => if x.2 = i then f x.1 x.2 else none)
      = l[i]?.bind fun a => f a i := by
  cases hres : l.zipIdx.findSome? fun x => if x.2 = i then f x.1 x.2 else none with
  | none =>
    rw [List.findSome?_eq_none_iff] at hres
    cases hl : l[i]? with
    | none => rfl
    | some a =>
      have := hres (a, i) (List.mem_zipIdx_iff_getElem?.mpr hl)
      simpa using this.symm
  | some b =>
    obtain ⟨⟨a, j⟩, ha, hb⟩ := List.exists_of_findSome?_eq_some hres
    have hl := List.mem_zipIdx_iff_getElem?.mp ha
    dsimp only at hb hl
    split at hb
    next hj =>
      subst hj
      rw [hl, ← hb]
      rfl
    next => simp at hb

namespace Registry

/-- Whether a position lies in the first zone with an id. -/
def isHome (r : Registry) (id : ZoneId) (h : Handle) : Bool :=
  r.zoneIdx? id == some h.zone

/-- Whether a position lies in a zone with another id. -/
def isOutside (r : Registry) (id : ZoneId) (h : Handle) : Bool :=
  r.zones[h.zone]?.map (·.id) != some id

variable {r : Registry} {h k : Handle} {id : ZoneId}

/-- A search of the free positions for a property of their zones goes zone by zone. -/
lemma find?_free {P : Handle → Bool} {Q : Zone → Nat → Bool}
    (hPQ : ∀ z i, r.zones[i]? = some z → ∀ j k, P ⟨i, j, k⟩ = Q z i) :
    r.free.find? P = r.zones.zipIdx.findSome? fun x =>
      if Q x.1 x.2 then x.1.firstHandle x.2 else none := by
  rw [free, List.find?_map, List.find?_filter, entries, List.find?_flatMap, List.map_findSome?,
    ← List.head?_filterMap, ← List.head?_filterMap]
  -- As heads of lists, the two searches may be compared zone by zone.
  congr 1
  apply List.filterMap_congr
  rintro ⟨z, i⟩ hz
  have hP := hPQ z i (List.mem_zipIdx_iff_getElem?.mp hz)
  simp only [Function.comp_def, List.find?_map, hP, Zone.firstHandle, Zone.firstAvailable_eq]
  cases Q z i <;> simp [Function.comp_def]

lemma firstAvailableAt_eq (r : Registry) (i : Nat) :
    r.firstAvailableAt i = r.free.find? (·.zone == i) := by
  rw [find?_free (Q := fun _ j => j == i) (fun _ _ _ _ _ => rfl)]
  simp only [beq_iff_eq]
  rw [findSome?_zipIdx_eq r.zones i Zone.firstHandle, firstAvailableAt_eq_bind]

lemma firstAvailable_eq (r : Registry) (id : ZoneId) :
    r.firstAvailable id = r.free.find? (r.isHome id) := by
  cases hi : r.zoneIdx? id with
  | none =>
    have hnone : r.free.find? (r.isHome id) = none := by
      rw [List.find?_eq_none]
      simp [isHome, hi]
    simp [firstAvailable, hi, hnone]
  | some i =>
    have hhome : r.isHome id = fun h => h.zone == i := by
      funext h
      rw [isHome, hi, Option.some_beq_some, Bool.beq_comm]
    simp [firstAvailable, hi, hhome, firstAvailableAt_eq]

lemma chooseOutside_eq (r : Registry) (id : ZoneId) :
    r.chooseOutside id = r.free.find? (r.isOutside id) := by
  rw [chooseOutside, find?_free (Q := fun z _ => z.id != id), ← List.head?_filterMap,
    List.filterMap_filter, List.head?_filterMap]
  intro z i hz j k
  simp [isOutside, hz, bne]

/-- The choice is made among the free positions: the first one at home, else the first one
outside. -/
lemma choose_eq (r : Registry) (id : ZoneId) :
    r.choose id = (r.free.find? (r.isHome id)).or (r.free.find? (r.isOutside id)) := by
  rw [choose_eq_or, firstAvailable_eq, chooseOutside_eq]

/-- The slot that is chosen is free. -/
lemma mem_free_of_choose (hc : r.choose id = some h) : h ∈ r.free := by
  rw [choose_eq, Option.or_eq_some_iff] at hc
  rcases hc with hc | ⟨-, hc⟩ <;> exact List.mem_of_find?_eq_some hc

/-! ### The choice after some slot was taken -/

lemma map_id_setAvailable (r : Registry) (h : Handle) (b : Bool) :
    (r.setAvailable h b).zones.map (·.id) = r.zones.map (·.id) := by
  unfold setAvailable
  apply map_modify_eq_map
  intro z
  rfl

/-- Whether a position is at home is a matter of the ids of the zones alone. -/
lemma isHome_eq (r : Registry) (id : ZoneId) :
    r.isHome id = fun h => (r.zones.map (·.id)).findIdx? (· == id) == some h.zone := by
  funext h
  rw [isHome, zoneIdx?, List.findIdx?_map]
  rfl

lemma isOutside_eq (r : Registry) (id : ZoneId) :
    r.isOutside id = fun h => (r.zones.map (·.id))[h.zone]? != some id := by
  funext h
  rw [isOutside, List.getElem?_map]

@[simp] lemma isHome_setAvailable (r : Registry) (h : Handle) (b : Bool) (id : ZoneId) :
    (r.setAvailable h b).isHome id = r.isHome id := by
  rw [isHome_eq, isHome_eq, map_id_setAvailable]

@[simp] lemma isOutside_setAvailable (r : Registry) (h : Handle) (b : Bool) (id : ZoneId) :
    (r.setAvailable h b).isOutside id = r.isOutside id := by
  rw [isOutside_eq, isOutside_eq, map_id_setAvailable]

lemma find?_free_setAvailable_of_ne {P : Handle → Bool} (hf : r.free.find? P = some k)
    (hne : k ≠ h) : (r.setAvailable h false).free.find? P = some k := by
  rw [List.find?_eq_some_iff_append] at hf
  obtain ⟨hP, before, after, hfree, hbefore⟩ := hf
  rw [free_setAvailable_false, hfree, List.filter_append,
    List.filter_cons_of_pos (by simpa using hne), List.find?_eq_some_iff_append]
  refine ⟨hP, _, _, rfl, ?_⟩
  intro a ha
  exact hbefore a (List.mem_of_mem_filter ha)

lemma find?_free_setAvailable_eq_none {P : Handle → Bool} (hf : r.free.find? P = none) :
    (r.setAvailable h false).free.find? P = none := by
  rw [List.find?_eq_none] at hf ⊢
  intro a ha
  exact hf a (mem_free_setAvailable_false.mp ha).1

/-- When some other slot is taken, the choice stays the same. -/
lemma choose_setAvailable_of_ne (hc : r.choose id = some k) (hne : k ≠ h) :
    (r.setAvailable h false).choose id = some k := by
  rw [choose_eq, Option.or_eq_some_iff] at hc ⊢
  rw [isHome_setAvailable, isOutside_setAvailable]
  rcases hc with hc | ⟨hnone, hc⟩
  · exact Or.inl (find?_free_setAvailable_of_ne hc hne)
  · exact Or.inr ⟨find?_free_setAvailable_eq_none hnone, find?_free_setAvailable_of_ne hc hne⟩

/-! ### Zones with distinct ids -/

/-- No id is registered twice. -/
def DistinctIds (r : Registry) : Prop := (r.zones.map (·.id)).Nodup

instance (r : Registry) : Decidable r.DistinctIds := inferInstanceAs (Decidable (List.Nodup _))

lemma DistinctIds.setAvailable (hd : r.DistinctIds) (h : Handle) (b : Bool) :
    (r.setAvailable h b).DistinctIds := by
  rw [DistinctIds, map_id_setAvailable]
  exact hd

lemma DistinctIds.isHome_iff (hd : r.DistinctIds) :
    r.isHome id h = true ↔ (r.zones.map (·.id))[h.zone]? = some id := by
  rw [isHome_eq, beq_iff_eq, List.findIdx?_eq_some_iff_getElem, List.getElem?_eq_some_iff]
  constructor
  · rintro ⟨hlt, hid, -⟩
    exact ⟨hlt, by simpa using hid⟩
  · rintro ⟨hlt, hid⟩
    -- No earlier zone has the id, as no other zone has it at all.
    refine ⟨hlt, by simpa using hid, fun j hj hjid => ?_⟩
    have heq : j = h.zone := by
      apply (List.Nodup.getElem_inj_iff hd).mp
      rw [hid]
      simpa only [beq_iff_eq] using hjid
    omega

/-- A position has one home at most. -/
lemma DistinctIds.isHome_inj (hd : r.DistinctIds) {id' : ZoneId} (hid : r.isHome id h = true)
    (hid' : r.isHome id' h = true) : id = id' := by
  rw [hd.isHome_iff] at hid hid'
  rw [hid] at hid'
  exact Option.some.inj hid'

/-- What is not at home is outside, so that without a free slot at home the first free slot of
all is taken. -/
lemma DistinctIds.choose_eq (hd : r.DistinctIds) (id : ZoneId) :
    r.choose id = (r.free.find? (r.isHome id)).or r.free.head? := by
  rw [Registry.choose_eq]
  cases hhome : r.free.find? (r.isHome id) with
  | some h => rfl
  | none =>
    rw [List.find?_eq_none] at hhome
    rw [Option.none_or, Option.none_or]
    cases hfree : r.free with
    | nil => rfl
    | cons h rest =>
      have hout : r.isOutside id h = true := by
        rw [isOutside_eq, bne_iff_ne, Ne, ← hd.isHome_iff]
        exact hhome h (by simp [hfree])
      rw [List.find?_cons_of_pos hout, List.head?_cons]

end Registry

end Garage

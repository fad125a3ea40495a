/-
# The slots of a registry with their positions

A registry is a tree of zones, areas and slots.  `Registry.entries` lists its slots with their
positions, in the order in which they are searched.  On this list

* `Registry.slot?` is looking a position up (`mem_entries`),
* positions increase (`entries_sorted`), so that no position occurs twice,
* the free and the taken positions are two complementary sublists, `Registry.free` and
  `Registry.taken`,

and each operation on the tree is described by what it does to the two sublists.
-/
import Garage.Registry
import Mathlib.Data.List.Sort

namespace Garage

/-- The order in which slots are searched: by zone, then by area, then by slot. -/
instance : LT Handle where
  lt h k := h.zone < k.zone ∨
    h.zone = k.zone ∧ (h.area < k.area ∨ h.area = k.area ∧ h.slot < k.slot)

namespace Handle

lemma lt_iff {h k : Handle} : h < k ↔ h.zone < k.zone ∨
    h.zone = k.zone ∧ (h.area < k.area ∨ h.area = k.area ∧ h.slot < k.slot) := Iff.rfl

instance : Std.Irrefl (α := Handle) (· < ·) where
  irrefl h hlt := by
    rw [lt_iff] at hlt
    omega

instance : Std.Antisymm (α := Handle) (· < ·) where
  antisymm h k hhk hkh := by
    rw [lt_iff] at hhk hkh
    omega

lemma zone_le_of_lt {h k : Handle} (hlt : h < k) : h.zone ≤ k.zone := by
  rw [lt_iff] at hlt
  omega

end Handle

/-- Numbering the members of a list is no hindrance to a function of the members alone. -/
lemma flatMap_zipIdx_fst {α β : Type} (l : List α) (f : α → List β) :
    l.zipIdx.flatMap (fun x => f x.1) = l.flatMap f := by
  rw [← List.flatMap_map Prod.fst f, List.zipIdx_map_fst]

lemma pairwise_zipIdx_snd {α : Type} (l : List α) :
    l.zipIdx.Pairwise fun x y => x.2 < y.2 := by
  rw [← List.pairwise_map (f := Prod.snd), List.zipIdx_map_snd]
  exact List.pairwise_lt_range'

namespace Zone

/-- The slots of a zone with the places of their areas and their own places. -/
def entries (z : Zone) : List ((Nat × Nat) × Slot) :=
  z.areas.zipIdx.flatMap fun (a, j) => a.slots.zipIdx.map fun (p, k) => ((j, k), p)

lemma mem_entries {z : Zone} {j k : Nat} {p : Slot} :
    ((j, k), p) ∈ z.entries ↔ ∃ a, z.areas[j]? = some a ∧ a.slots[k]? = some p := by
  simp only [entries, List.mem_flatMap, List.mem_map, List.mem_zipIdx_iff_getElem?]
  constructor
  · rintro ⟨⟨a, j'⟩, ha, ⟨q, k'⟩, hq, heq⟩
    simp only [Prod.mk.injEq] at heq
    obtain ⟨⟨rfl, rfl⟩, rfl⟩ := heq
    exact ⟨a, ha, hq⟩
  · rintro ⟨a, ha, hp⟩
    exact ⟨(a, j), ha, (p, k), hp, rfl⟩

lemma entries_map_snd (z : Zone) : z.entries.map Prod.snd = z.slots := by
  have hslots (a : Area) (j : Nat) :
      (a.slots.zipIdx.map fun (p, k) => ((j, k), p)).map Prod.snd = a.slots := by
    simp [Function.comp_def]
  rw [entries, List.map_flatMap]
  simp only [hslots]
  exact flatMap_zipIdx_fst z.areas (·.slots)

lemma entries_sorted (z : Zone) : z.entries.Pairwise fun x y =>
    x.1.1 < y.1.1 ∨ x.1.1 = y.1.1 ∧ x.1.2 < y.1.2 := by
  rw [entries, List.pairwise_flatMap]
  -- inside one area the places increase, from area to area the places of the areas
  refine ⟨?_, (pairwise_zipIdx_snd z.areas).imp ?_⟩
  · rintro ⟨a, j⟩ -
    rw [List.pairwise_map]
    exact (pairwise_zipIdx_snd a.slots).imp fun hlt => Or.inr ⟨rfl, hlt⟩
  · rintro ⟨a, j⟩ ⟨b, l⟩ hlt x hx y hy
    obtain ⟨⟨p, k⟩, -, rfl⟩ := List.mem_map.mp hx
    obtain ⟨⟨q, m⟩, -, rfl⟩ := List.mem_map.mp hy
    exact Or.inl hlt

/-- All slots of the zone are free. -/
def AllFree (z : Zone) : Prop := ∀ p ∈ z.slots, p.available = true

instance (z : Zone) : Decidable z.AllFree := inferInstanceAs (Decidable (∀ p ∈ z.slots, _))

end Zone

namespace Registry

/-- The slots of a registry with their positions. -/
def entries (r : Registry) : List (Handle × Slot) :=
  r.zones.zipIdx.flatMap fun (z, i) => z.entries.map fun (jk, p) => (⟨i, jk.1, jk.2⟩, p)

/-- The positions of the free slots. -/
def free (r : Registry) : List Handle :=
  (r.entries.filter (·.2.available)).map Prod.fst

/-- The positions of the slots that are not free. -/
def taken (r : Registry) : List Handle :=
  (r.entries.filter (!·.2.available)).map Prod.fst

variable {r : Registry} {h k : Handle} {p : Slot} {z : Zone}

lemma slot?_eq_some_iff : r.slot? h = some p ↔
    ∃ z, r.zones[h.zone]? = some z ∧ ((h.area, h.slot), p) ∈ z.entries := by
  simp only [slot?, Option.bind_eq_bind, Option.bind_eq_some_iff, Zone.mem_entries]

/-- Looking a position up in the tree is looking it up in the list. -/
lemma mem_entries : (h, p) ∈ r.entries ↔ r.slot? h = some p := by
  rw [slot?_eq_some_iff]
  simp only [entries, List.mem_flatMap, List.mem_map, List.mem_zipIdx_iff_getElem?]
  constructor
  · rintro ⟨⟨z, i⟩, hz, ⟨⟨j, k⟩, q⟩, hq, heq⟩
    simp only [Prod.mk.injEq] at heq
    obtain ⟨rfl, rfl⟩ := heq
    exact ⟨z, hz, hq⟩
  · rintro ⟨z, hz, hp⟩
    exact ⟨(z, h.zone), hz, ((h.area, h.slot), p), hp, rfl⟩

lemma entries_map_snd (r : Registry) : r.entries.map Prod.snd = r.slots := by
  have hzone (z : Zone) (i : Nat) :
      (z.entries.map fun (jk, p) => ((⟨i, jk.1, jk.2⟩ : Handle), p)).map Prod.snd = z.slots := by
    rw [← Zone.entries_map_snd]
    simp [Function.comp_def]
  rw [entries, List.map_flatMap]
  simp only [hzone]
  exact flatMap_zipIdx_fst r.zones (·.slots)

lemma entries_sorted (r : Registry) : r.entries.Pairwise fun x y => x.1 < y.1 := by
  rw [entries, List.pairwise_flatMap]
  refine ⟨?_, (pairwise_zipIdx_snd r.zones).imp ?_⟩
  · rintro ⟨z, i⟩ -
    rw [List.pairwise_map]
    exact z.entries_sorted.imp fun hlt => Or.inr ⟨rfl, hlt⟩
  · rintro ⟨z, i⟩ ⟨z', i'⟩ hlt x hx y hy
    obtain ⟨⟨jk, p⟩, -, rfl⟩ := List.mem_map.mp hx
    obtain ⟨⟨jk', q⟩, -, rfl⟩ := List.mem_map.mp hy
    exact Or.inl hlt

lemma free_sorted (r : Registry) : r.free.Pairwise (· < ·) := by
  rw [free, List.pairwise_map]
  exact r.entries_sorted.filter _

lemma free_nodup (r : Registry) : r.free.Nodup := r.free_sorted.nodup

lemma taken_sorted (r : Registry) : r.taken.Pairwise (· < ·) := by
  rw [taken, List.pairwise_map]
  exact r.entries_sorted.filter _

lemma taken_nodup (r : Registry) : r.taken.Nodup := r.taken_sorted.nodup

@[simp] lemma mem_free : h ∈ r.free ↔ ∃ p, r.slot? h = some p ∧ p.available = true := by
  simp only [free, List.mem_map, List.mem_filter]
  constructor
  · rintro ⟨⟨k, p⟩, ⟨hp, hfree⟩, rfl⟩
    exact ⟨p, mem_entries.mp hp, hfree⟩
  · rintro ⟨p, hp, hfree⟩
    exact ⟨(h, p), ⟨mem_entries.mpr hp, hfree⟩, rfl⟩

@[simp] lemma mem_taken : h ∈ r.taken ↔ ∃ p, r.slot? h = some p ∧ p.available = false := by
  simp only [taken, List.mem_map, List.mem_filter]
  constructor
  · rintro ⟨⟨k, p⟩, ⟨hp, htaken⟩, rfl⟩
    exact ⟨p, mem_entries.mp hp, by simpa using htaken⟩
  · rintro ⟨p, hp, htaken⟩
    exact ⟨(h, p), ⟨mem_entries.mpr hp, by simpa using htaken⟩, rfl⟩

lemma not_mem_taken_of_mem_free (hh : h ∈ r.free) : h ∉ r.taken := by
  obtain ⟨p, hp, hfree⟩ := mem_free.mp hh
  rw [mem_taken]
  rintro ⟨q, hq, htaken⟩
  rw [hp, Option.some.injEq] at hq
  rw [← hq, hfree] at htaken
  exact absurd htaken (by decide)

/-! ### Counting -/

lemma length_free (r : Registry) : r.free.length = r.availableSlots := by
  rw [free, List.length_map, ← List.countP_eq_length_filter, availableSlots, ← entries_map_snd,
    List.countP_map]
  rfl

lemma length_taken (r : Registry) : r.taken.length = r.slots.countP (!·.available) := by
  rw [taken, List.length_map, ← List.countP_eq_length_filter, ← entries_map_snd, List.countP_map]
  rfl

/-- Every slot is either free or taken. -/
lemma length_free_add_length_taken (r : Registry) :
    r.free.length + r.taken.length = r.totalSlots := by
  have hlen := List.length_eq_length_filter_add (l := r.entries) (·.2.available)
  rw [totalSlots, ← entries_map_snd, List.length_map, hlen, free, taken, List.length_map,
    List.length_map]

/-! ### Setting one slot -/

lemma mem_free_setAvailable_false :
    k ∈ (r.setAvailable h false).free ↔ k ∈ r.free ∧ k ≠ h := by
  rw [mem_free, mem_free, slot?_setAvailable]
  by_cases hk : k = h <;> simp [hk]

lemma mem_taken_setAvailable_true :
    k ∈ (r.setAvailable h true).taken ↔ k ∈ r.taken ∧ k ≠ h := by
  rw [mem_taken, mem_taken, slot?_setAvailable]
  by_cases hk : k = h <;> simp [hk]

lemma mem_taken_setAvailable_false (hh : h ∈ r.free) :
    k ∈ (r.setAvailable h false).taken ↔ k ∈ r.taken ∨ k = h := by
  obtain ⟨p, hp, -⟩ := mem_free.mp hh
  rw [mem_taken, mem_taken, slot?_setAvailable]
  by_cases hk : k = h <;> simp [hk, hp]

/-- Taking a slot strikes its position from the free ones. -/
lemma free_setAvailable_false (r : Registry) (h : Handle) :
    (r.setAvailable h false).free = r.free.filter (· != h) := by
  -- Both lists are in order, so it is enough that they have the same members.
  apply (free_sorted _).eq_of_mem_iff (r.free_sorted.filter _)
  intro k
  rw [mem_free_setAvailable_false, List.mem_filter, bne_iff_ne]

/-- Taking a free slot leaves one free slot less. -/
lemma length_free_setAvailable_false (hh : h ∈ r.free) :
    (r.setAvailable h false).free.length + 1 = r.free.length := by
  rw [free_setAvailable_false, ← r.free_nodup.erase_eq_filter, List.length_erase_add_one hh]

/-! ### Registering a zone -/

lemma entries_addZone (r : Registry) (z : Zone) :
    (r.addZone z).entries = r.entries ++
      z.entries.map fun (jk, p) => (⟨r.zones.length, jk.1, jk.2⟩, p) := by
  simp [entries, addZone, List.zipIdx_append]

/-- A zone with free slots only adds nothing to the taken ones. -/
lemma taken_addZone (r : Registry) (hz : z.AllFree) : (r.addZone z).taken = r.taken := by
  have hnone : ∀ x ∈ z.entries, x.2.available = true := by
    intro x hx
    apply hz
    rw [← z.entries_map_snd]
    exact List.mem_map_of_mem hx
  have hempty : (z.entries.map fun (jk, p) =>
      ((⟨r.zones.length, jk.1, jk.2⟩ : Handle), p)).filter (!·.2.available) = [] := by
    rw [List.filter_eq_nil_iff]
    rintro x hx
    obtain ⟨y, hy, rfl⟩ := List.mem_map.mp hx
    simp [hnone y hy]
  rw [taken, entries_addZone, List.filter_append, hempty, List.append_nil, taken]

end Registry
end Garage

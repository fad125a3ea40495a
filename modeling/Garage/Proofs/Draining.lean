/-
# In which order a garage fills up

Vehicles come one after another, and all of them ask for the same zone.  Which slots they get is
known beforehand, whichever slots are free and however often ids of zones are repeated: first the
free slots of the first zone with the id, then those of all zones with other ids, each time in the
order of their positions (`Registry.drainOrder`).

* `choose_eq_head?`: whoever comes next gets the first slot in this order.
* `drainOrder_setAvailable_head`: the slots behind it are then the order for the vehicles that are
  still to come.
* `slots_drain_in_order` follows the vehicles to the end and beyond it: the others get nothing, and
  no slot of a later zone with the id is ever touched.
-/
import Garage.Proofs.Policy
import Garage.Proofs.Visits

namespace Garage

namespace Registry

variable {r : Registry} {id : ZoneId} {h : Handle} {rest : List Handle}

/-! ### The order -/

/-- The free slots of the first zone with this id. -/
def homeSlots (r : Registry) (id : ZoneId) : List Handle := r.free.filter (r.isHome id)

/-- The free slots of all zones with other ids. -/
def otherSlots (r : Registry) (id : ZoneId) : List Handle := r.free.filter (r.isOutside id)

/-- The slots that vehicles get one after another when they all ask for the zone with this id. -/
def drainOrder (r : Registry) (id : ZoneId) : List Handle := r.homeSlots id ++ r.otherSlots id

lemma choose_eq_head? (r : Registry) (id : ZoneId) : r.choose id = (r.drainOrder id).head? := by
  rw [choose_eq, drainOrder, List.head?_append, homeSlots, otherSlots, List.head?_filter,
    List.head?_filter]

lemma mem_homeSlots : h ∈ r.homeSlots id ↔ h ∈ r.freeAtHome id := by
  rw [homeSlots, List.mem_filter, freeAtHome_eq]
  rfl

lemma mem_otherSlots : h ∈ r.otherSlots id ↔ h ∈ r.freeOutside id := by
  rw [otherSlots, List.mem_filter, freeOutside_eq]
  rfl

lemma mem_free_of_mem_drainOrder (hh : h ∈ r.drainOrder id) : h ∈ r.free := by
  rcases List.mem_append.mp hh with hh | hh <;> exact List.mem_of_mem_filter hh

/-- The first zone with the id is not a zone with another id. -/
lemma nodup_drainOrder (r : Registry) (id : ZoneId) : (r.drainOrder id).Nodup := by
  refine List.Nodup.append (r.free_nodup.filter _) (r.free_nodup.filter _) ?_
  intro h hhome hother
  obtain ⟨-, ⟨z, hz, hid⟩, -⟩ := mem_homeSlots.mp hhome
  obtain ⟨-, z', hz', hid'⟩ := mem_otherSlots.mp hother
  obtain rfl := Option.some.inj (hz.symm.trans hz')
  exact hid' hid

/-- Taking a slot strikes it from the order. -/
lemma drainOrder_setAvailable (r : Registry) (id : ZoneId) (h : Handle) :
    (r.setAvailable h false).drainOrder id = (r.drainOrder id).filter (· != h) := by
  rw [drainOrder, homeSlots, otherSlots, isHome_setAvailable, isOutside_setAvailable,
    free_setAvailable_false, drainOrder, List.filter_append, homeSlots, otherSlots,
    List.filter_comm, List.filter_comm (r.isOutside id)]

/-- What is left when the first slot is taken are the others, in the same order. -/
lemma drainOrder_setAvailable_head (horder : r.drainOrder id = h :: rest) :
    (r.setAvailable h false).drainOrder id = rest := by
  rw [drainOrder_setAvailable, ← (r.nodup_drainOrder id).erase_eq_filter, horder,
    List.erase_cons_head]

/-- Vehicles that all ask for one zone get the slots in the order, one each. -/
lemma grants_replicate (r : Registry) (id : ZoneId) (n : Nat) :
    r.grants (List.replicate n id) = (r.drainOrder id).take n := by
  induction n generalizing r with
  | zero => rfl
  | succ n ih =>
    have hc := r.choose_eq_head? id
    cases horder : r.drainOrder id with
    | nil =>
      rw [horder, List.head?_nil] at hc
      rw [List.replicate_succ, grants_cons_of_choose_eq_none hc, ih, horder, List.take_nil,
        List.take_nil]
    | cons h rest =>
      rw [horder, List.head?_cons] at hc
      rw [List.replicate_succ, grants_cons_of_choose hc, ih, drainOrder_setAvailable_head horder,
        List.take_succ_cons]

/-- When one of them gets no slot, then those behind it do not either. -/
lemma servesFirst_replicate (r : Registry) (id : ZoneId) (n : Nat) :
    r.ServesFirst (List.replicate n id) := by
  induction n generalizing r with
  | zero => trivial
  | succ n ih =>
    refine ⟨fun hc => ?_, ih _⟩
    rw [choose_eq_head?, List.head?_eq_none_iff] at hc
    rw [grants_replicate, hc, List.take_nil]

/-- Slots that are given away are taken, and no others are. -/
lemma slot?_foldl_grant (r : Registry) (ids : List ZoneId) (k : Handle) :
    (ids.foldl grant r).slot? k = if k ∈ r.grants ids
      then (r.slot? k).map (·.withAvailable false) else r.slot? k := by
  induction ids generalizing r with
  | nil => rfl
  | cons id ids ih =>
    rw [List.foldl_cons, ih]
    cases hc : r.choose id with
    | none => rw [grant_of_choose_eq_none hc, grants_cons_of_choose_eq_none hc]
    | some h =>
      rw [grant_of_choose hc, grants_cons_of_choose hc, slot?_setAvailable]
      by_cases hk : k = h
      · subst hk
        cases r.slot? k <;> simp [Slot.withAvailable]
      · simp [hk]

/-- Slots in a zone behind the first one with the same id are not in the order. -/
lemma not_mem_drainOrder {i : Nat} {z z' : Zone} (hi : i < h.zone)
    (hz : r.zones[i]? = some z) (hz' : r.zones[h.zone]? = some z') (hid : z.id = id)
    (hid' : z'.id = id) : h ∉ r.drainOrder id := by
  intro hh
  rcases List.mem_append.mp hh with hhome | hother
  · obtain ⟨-, -, hfirst⟩ := mem_homeSlots.mp hhome
    exact hfirst i hi z hz hid
  · obtain ⟨-, z'', hz'', hne⟩ := mem_otherSlots.mp hother
    obtain rfl := Option.some.inj (hz'.symm.trans hz'')
    exact hne hid'

end Registry

namespace Facility

variable {s : Facility} {id : ZoneId} {subs : List Submission}

/-- What comes of vehicles that ask for the zone `id` one after another. -/
structure DrainsInOrder (s : Facility) (id : ZoneId) (subs : List Submission) : Prop where
  /-- The slots in front are the free ones of the first zone with the id, in the order of their
  positions. -/
  home_sorted : (s.registry.homeSlots id).Pairwise (· < ·)
  mem_home : ∀ h, h ∈ s.registry.homeSlots id ↔ h ∈ s.registry.freeAtHome id
  /-- The slots behind them are the free ones of all zones with other ids, in the order of their
  positions. -/
  other_sorted : (s.registry.otherSlots id).Pairwise (· < ·)
  mem_other : ∀ h, h ∈ s.registry.otherSlots id ↔ h ∈ s.registry.freeOutside id
  /-- As many vehicles as there are such slots succeed, the first ones; all others are told that
  there is no slot. -/
  answer_eq : ∀ i, i < subs.length → (s.answers (subs.map (·.operation)))[i]? =
    some (if i < (s.registry.drainOrder id).length
      then .ok (.request (s.requests.length + i)) else .error (.noSlot id))
  /-- Their requests have these slots, one each, in this order. -/
  requests_eq : (s.run (subs.map (·.operation))).requests = s.requests ++
    (subs.zip ((s.registry.drainOrder id).take subs.length)).mapIdx
      fun i (m, h) => m.granted (s.requests.length + i) h
  /-- These slots were free and are taken then. -/
  slot_taken : ∀ h ∈ (s.registry.drainOrder id).take subs.length,
    ∃ p, s.registry.slot? h = some p ∧ p.available = true ∧
      (s.run (subs.map (·.operation))).registry.slot? h = some { p with available := false }
  /-- All other slots stay as they are. -/
  slot_kept : ∀ h, h ∉ (s.registry.drainOrder id).take subs.length →
    (s.run (subs.map (·.operation))).registry.slot? h = s.registry.slot? h
  /-- So do all slots of a zone with the id that comes after another one. -/
  later_kept : ∀ h i z z', i < h.zone → s.registry.zones[i]? = some z →
    s.registry.zones[h.zone]? = some z' → z.id = id → z'.id = id →
    (s.run (subs.map (·.operation))).registry.slot? h = s.registry.slot? h

lemma grants_of_forall_zone (hsubs : ∀ m ∈ subs, m.zone = id) :
    s.registry.grants (subs.map (·.zone)) = (s.registry.drainOrder id).take subs.length := by
  rw [List.map_eq_replicate_iff.mpr hsubs, Registry.grants_replicate]

lemma slot?_run_of_forall_zone (hsubs : ∀ m ∈ subs, m.zone = id) (h : Handle) :
    (s.run (subs.map (·.operation))).registry.slot? h =
      if h ∈ (s.registry.drainOrder id).take subs.length
      then (s.registry.slot? h).map (·.withAvailable false) else s.registry.slot? h := by
  rw [registry_run_submit, Registry.slot?_foldl_grant, grants_of_forall_zone hsubs]

/-- **A garage fills up in a known order.**  Vehicles that all ask for one zone get the free slots
of the first zone with this id and then those of all zones with other ids, one each, in the order of
their positions; after that all of them are turned away, however many there are. -/
theorem slots_drain_in_order (hsubs : ∀ m ∈ subs, m.zone = id) : s.DrainsInOrder id subs := by
  have hgrants := grants_of_forall_zone (s := s) hsubs
  have hfirst : s.registry.ServesFirst (subs.map (·.zone)) := by
    rw [List.map_eq_replicate_iff.mpr hsubs]
    exact s.registry.servesFirst_replicate id subs.length
  constructor
  case home_sorted => exact s.registry.free_sorted.filter _
  case mem_home => exact fun h => Registry.mem_homeSlots
  case other_sorted => exact s.registry.free_sorted.filter _
  case mem_other => exact fun h => Registry.mem_otherSlots
  case answer_eq =>
    intro i hi
    have hm : subs[i]? = some subs[i] := List.getElem?_eq_getElem hi
    rw [getElem?_answers_of_servesFirst hfirst hm, hgrants, hsubs _ (List.getElem_mem hi),
      List.length_take]
    simp only [Nat.lt_min, hi, true_and]
  case requests_eq =>
    rw [requests_run_submit_eq hfirst, hgrants]
  case slot_taken =>
    intro h hh
    obtain ⟨p, hp, hfree⟩ :=
      Registry.mem_free.mp (Registry.mem_free_of_mem_drainOrder (List.mem_of_mem_take hh))
    refine ⟨p, hp, hfree, ?_⟩
    rw [slot?_run_of_forall_zone hsubs, if_pos hh, hp]
    rfl
  case slot_kept =>
    intro h hh
    rw [slot?_run_of_forall_zone hsubs, if_neg hh]
  case later_kept =>
    intro h i z z' hi hz hz' hid hid'
    have hnot := Registry.not_mem_drainOrder hi hz hz' hid hid'
    rw [slot?_run_of_forall_zone hsubs, if_neg fun hh => hnot (List.mem_of_mem_take hh)]

/-- The first of two zones with one id has one slot left.  Of three vehicles that ask for this id,
one gets it, one goes to the last zone, and the other one is turned away from a free slot. -/
theorem slots_drain_in_order_repeatedZone :
    let zone (id : ZoneId) := (Zone.empty id).addArea (Area.numbered 1 id 1)
    let s := (ofZones [twoSlots, zone 2, zone 1, zone 3]).run
      [.submit "A" 1 ⟨0, 0⟩, .submit "B" 2 ⟨0, 0⟩]
    let subs : List Submission := [⟨"C", 1, ⟨1, 0⟩⟩, ⟨"D", 1, ⟨2, 0⟩⟩, ⟨"E", 1, ⟨3, 0⟩⟩]
    (∀ m ∈ subs, m.zone = 1) ∧ s.DrainsInOrder 1 subs ∧
      s.registry.drainOrder 1 = [⟨0, 0, 1⟩, ⟨3, 0, 0⟩] ∧
      s.answers (subs.map (·.operation)) =
        [.ok (.request 2), .ok (.request 3), .error (.noSlot 1)] ∧
      (s.run (subs.map (·.operation))).registry.free = [⟨2, 0, 0⟩] := by
  intro zone s subs
  have hsubs : ∀ m ∈ subs, m.zone = 1 := by decide
  exact ⟨hsubs, slots_drain_in_order hsubs, by decide, by decide, by decide⟩

end Facility

end Garage

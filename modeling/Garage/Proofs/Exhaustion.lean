/-
# When a garage is full

As long as no id of a zone is registered twice, a vehicle is turned away only when no slot is free
at all.  So of vehicles that ask for slots one after another, whichever zones they prefer, just the
first ones succeed, as many as there are free slots.

* `Registry.grants` lists the slots that are given away meanwhile; they are different free slots
  (`nodup_grants`, `mem_free_of_mem_grants`), as many as there can be (`DistinctIds.length_grants`).
* `ServesFirst`: all who get a slot come before all who get none.  So it is when ids differ
  (`DistinctIds.servesFirst`).
* `DistinctIds.home_iff`: a vehicle is sent elsewhere only when its zone has nothing to offer.
* `submissions_exhaust_slots` follows a run of submissions through the changing garage.
-/
import Garage.Proofs.Competition

namespace Garage

namespace Registry

variable {r : Registry} {h : Handle} {id : ZoneId} {ids : List ZoneId}

/-! ### The slots that are given away -/

/-- The slots that are given away when vehicles ask for these zones one after another. -/
def grants (r : Registry) : List ZoneId → List Handle
  | [] => []
  | id :: ids => (r.choose id).toList ++ (r.grant id).grants ids

lemma grants_cons_of_choose (hc : r.choose id = some h) (ids : List ZoneId) :
    r.grants (id :: ids) = h :: (r.setAvailable h false).grants ids := by
  rw [grants, grant_of_choose hc, hc]
  rfl

lemma grants_cons_of_choose_eq_none (hc : r.choose id = none) (ids : List ZoneId) :
    r.grants (id :: ids) = r.grants ids := by
  rw [grants, grant_of_choose_eq_none hc, hc]
  rfl

lemma mem_free_of_mem_grants (hh : h ∈ r.grants ids) : h ∈ r.free := by
  induction ids generalizing r with
  | nil => cases hh
  | cons id ids ih =>
    cases hc : r.choose id with
    | none =>
      rw [grants_cons_of_choose_eq_none hc] at hh
      exact ih hh
    | some k =>
      rw [grants_cons_of_choose hc, List.mem_cons] at hh
      rcases hh with rfl | hh
      · exact mem_free_of_choose hc
      · exact (mem_free_setAvailable_false.mp (ih hh)).1

/-- No slot is given away twice. -/
lemma nodup_grants (r : Registry) (ids : List ZoneId) : (r.grants ids).Nodup := by
  induction ids generalizing r with
  | nil => exact List.nodup_nil
  | cons id ids ih =>
    cases hc : r.choose id with
    | none =>
      rw [grants_cons_of_choose_eq_none hc]
      exact ih r
    | some h =>
      rw [grants_cons_of_choose hc, List.nodup_cons]
      refine ⟨fun hh => ?_, ih _⟩
      exact (mem_free_setAvailable_false.mp (mem_free_of_mem_grants hh)).2 rfl

/-- When vehicles ask for these zones one after another, none gets a slot after one that got
none. -/
def ServesFirst (r : Registry) : List ZoneId → Prop
  | [] => True
  | id :: ids => (r.choose id = none → r.grants ids = []) ∧ (r.grant id).ServesFirst ids

namespace DistinctIds

/-- Slots are given away as long as there are any. -/
lemma length_grants (hd : r.DistinctIds) (ids : List ZoneId) :
    (r.grants ids).length = min ids.length r.free.length := by
  induction ids generalizing r with
  | nil => simp [grants]
  | cons id ids ih =>
    cases hc : r.choose id with
    | none =>
      have hfree : r.free = [] := hd.choose_eq_none_iff.mp hc
      rw [grants_cons_of_choose_eq_none hc, ih hd, hfree, List.length_nil, Nat.min_zero,
        Nat.min_zero]
    | some h =>
      have hlen := length_free_setAvailable_false (mem_free_of_choose hc)
      rw [grants_cons_of_choose hc, List.length_cons, ih (hd.setAvailable h false),
        List.length_cons]
      omega

/-- Who is turned away finds the whole garage full, and it stays so. -/
lemma servesFirst (hd : r.DistinctIds) (ids : List ZoneId) : r.ServesFirst ids := by
  induction ids generalizing r with
  | nil => trivial
  | cons id ids ih =>
    refine ⟨fun hc => ?_, ih (hd.grant id)⟩
    rw [← List.length_eq_zero_iff, hd.length_grants, hd.choose_eq_none_iff.mp hc, List.length_nil,
      Nat.min_zero]

/-- A vehicle gets a slot in the zone that it asks for just if there is such a zone and a slot in it
is free. -/
lemma home_iff (hd : r.DistinctIds) (hc : r.choose id = some h) :
    r.zones[h.zone]?.map (·.id) = some id ↔
      ∃ z ∈ r.zones, z.id = id ∧ ∃ p ∈ z.slots, p.available = true := by
  rw [← List.getElem?_map, ← hd.isHome_iff]
  constructor
  · intro hhome
    rw [hd.isHome_iff, List.getElem?_map, Option.map_eq_some_iff] at hhome
    obtain ⟨z, hz, hid⟩ := hhome
    obtain ⟨p, hp, hfree⟩ := mem_free.mp (mem_free_of_choose hc)
    obtain ⟨z', hz', hentry⟩ := slot?_eq_some_iff.mp hp
    obtain rfl := Option.some.inj (hz.symm.trans hz')
    refine ⟨z, List.mem_of_getElem? hz, hid, p, ?_, hfree⟩
    rw [← z.entries_map_snd]
    exact List.mem_map_of_mem hentry
  · rintro ⟨z, hz, hid, p, hp, hfree⟩
    -- The free slot in the zone is one that the search at home comes upon.
    rw [← z.entries_map_snd] at hp
    obtain ⟨⟨jk, q⟩, hentry, rfl⟩ := List.mem_map.mp hp
    obtain ⟨i, hi⟩ := List.mem_iff_getElem?.mp hz
    have hmem : (⟨i, jk.1, jk.2⟩ : Handle) ∈ r.free :=
      mem_free.mpr ⟨q, slot?_eq_some_iff.mpr ⟨z, hi, hentry⟩, hfree⟩
    have hhome : r.isHome id ⟨i, jk.1, jk.2⟩ = true := by
      rw [hd.isHome_iff, List.getElem?_map, hi, Option.map_some, hid]
    rw [hd.choose_eq, Option.or_eq_some_iff] at hc
    rcases hc with hc | ⟨hnone, -⟩
    · exact List.find?_some hc
    · exact absurd hhome (List.find?_eq_none.mp hnone _ hmem)

end DistinctIds

end Registry

namespace Facility

variable {s : Facility} {subs : List Submission}

/-! ### Submissions in a row -/

lemma answer_operation (s : Facility) (m : Submission) :
    (s.perform m.operation).answer = if (s.registry.choose m.zone).isSome
      then .ok (.request s.requests.length) else .error (.noSlot m.zone) :=
  s.answer_perform_submit m.vehicle m.zone m.now

/-- The new requests have the slots that are given away. -/
lemma requests_run_submit (s : Facility) (subs : List Submission) : ∃ new,
    (s.run (subs.map (·.operation))).requests = s.requests ++ new ∧
      new.map (·.slot) = (s.registry.grants (subs.map (·.zone))).map some := by
  induction subs generalizing s with
  | nil => exact ⟨[], (List.append_nil _).symm, rfl⟩
  | cons m subs ih =>
    obtain ⟨new, hnew, hslots⟩ := ih (s.after m.operation)
    rw [Submission.operation, requests_submit, List.append_assoc] at hnew
    refine ⟨_, hnew, ?_⟩
    rw [List.map_append, List.map_map, hslots, registry_submit, List.map_cons, Registry.grants,
      List.map_append]
    rfl

/-- The answers to the vehicles that are served first are the ids of their requests; all others are
turned away. -/
lemma getElem?_answers_of_servesFirst {i : Nat} {m : Submission}
    (hfirst : s.registry.ServesFirst (subs.map (·.zone))) (hm : subs[i]? = some m) :
    (s.answers (subs.map (·.operation)))[i]? =
      some (if i < (s.registry.grants (subs.map (·.zone))).length
        then .ok (.request (s.requests.length + i)) else .error (.noSlot m.zone)) := by
  induction subs generalizing s i with
  | nil => simp at hm
  | cons m₀ subs ih =>
    obtain ⟨hstop, hrest⟩ := hfirst
    rw [← registry_submit] at hrest
    rw [List.map_cons, List.map_cons, answers, answer_operation]
    cases hc : s.registry.choose m₀.zone with
    | none =>
      have hnone := hstop hc
      rw [Registry.grants_cons_of_choose_eq_none hc, hnone]
      cases i with
      | zero =>
        obtain rfl := Option.some.inj hm
        rfl
      | succ i =>
        rw [List.getElem?_cons_succ, ih hrest hm, registry_submit,
          Registry.grant_of_choose_eq_none hc, hnone]
        rfl
    | some h =>
      rw [Registry.grants_cons_of_choose hc]
      cases i with
      | zero => rfl
      | succ i =>
        -- One request more: the answers to the others are shifted by one.
        have hone : (s.after m₀.operation).requests.length = s.requests.length + 1 := by
          rw [Submission.operation, requests_submit, hc]
          simp
        rw [List.getElem?_cons_succ, ih hrest hm, registry_submit, Registry.grant_of_choose hc,
          hone, List.length_cons, Nat.add_right_comm, Nat.add_assoc _ i 1]
        simp only [Nat.add_lt_add_iff_right]

/-- Vehicles are turned away from the moment on when no slot is free. -/
lemma getElem?_answers_submit (hd : s.registry.DistinctIds) {i : Nat} {m : Submission}
    (hm : subs[i]? = some m) : (s.answers (subs.map (·.operation)))[i]? =
      some (if i < s.registry.free.length then .ok (.request (s.requests.length + i))
        else .error (.noSlot m.zone)) := by
  have hlt : i < subs.length := (List.getElem?_eq_some_iff.mp hm).1
  rw [getElem?_answers_of_servesFirst (hd.servesFirst _) hm, hd.length_grants, List.length_map]
  simp only [Nat.lt_min, hlt, true_and]

/-- Whether a vehicle gets a slot at home is decided when it comes. -/
lemma home_iff_of_grants (hd : s.registry.DistinctIds) {i : Nat} {m : Submission} {h : Handle}
    (hm : subs[i]? = some m) (hh : (s.registry.grants (subs.map (·.zone)))[i]? = some h) :
    s.registry.zones[h.zone]?.map (·.id) = some m.zone ↔
      ∃ z ∈ (s.run ((subs.take i).map (·.operation))).registry.zones,
        z.id = m.zone ∧ ∃ p ∈ z.slots, p.available = true := by
  induction subs generalizing s i with
  | nil => simp at hm
  | cons m₀ subs ih =>
    rw [List.map_cons] at hh
    cases hc : s.registry.choose m₀.zone with
    | none =>
      have hlen := hd.length_grants (m₀.zone :: subs.map (·.zone))
      rw [hd.choose_eq_none_iff.mp hc, List.length_nil, Nat.min_zero,
        List.length_eq_zero_iff] at hlen
      rw [hlen] at hh
      cases hh
    | some k =>
      rw [Registry.grants_cons_of_choose hc] at hh
      cases i with
      | zero =>
        obtain rfl := Option.some.inj hm
        obtain rfl := Option.some.inj hh
        exact hd.home_iff hc
      | succ i =>
        have hregistry : (s.after m₀.operation).registry = s.registry.setAvailable k false := by
          rw [registry_submit, Registry.grant_of_choose hc]
        have hd' : (s.after m₀.operation).registry.DistinctIds := by
          rw [hregistry]
          exact hd.setAvailable k false
        rw [List.getElem?_cons_succ, ← hregistry] at hh
        rw [List.take_succ_cons, List.map_cons, run_cons, ← ih hd' hm hh, hregistry,
          ← List.getElem?_map, ← List.getElem?_map, Registry.map_id_setAvailable]

/-- What comes of vehicles that ask for slots one after another: the first ones get `slots`, the
others get none. -/
structure HandsOut (s : Facility) (subs : List Submission) (slots : List Handle) : Prop where
  /-- There is a slot for every vehicle until none is free any more. -/
  length_eq : slots.length = min subs.length s.registry.availableSlots
  /-- No slot is handed out twice. -/
  nodup : slots.Nodup
  /-- The slots were free. -/
  free : ∀ h ∈ slots, ∃ p, s.registry.slot? h = some p ∧ p.available = true
  /-- Those who come first are told the ids of their requests, which are consecutive; those who come
  later are told that there is no slot. -/
  answer_eq : ∀ i m, subs[i]? = some m → (s.answers (subs.map (·.operation)))[i]? =
    some (if i < s.registry.availableSlots then .ok (.request (s.requests.length + i))
      else .error (.noSlot m.zone))
  /-- The new requests have the slots, in order. -/
  requests_eq : ∃ new, (s.run (subs.map (·.operation))).requests = s.requests ++ new ∧
    new.map (·.slot) = slots.map some
  /-- A vehicle gets a slot in the zone that it asks for just if there is such a zone and a slot in
  it is free when it comes. -/
  home_iff : ∀ i m h, subs[i]? = some m → slots[i]? = some h →
    (s.registry.zones[h.zone]?.map (·.id) = some m.zone ↔
      ∃ z ∈ (s.run ((subs.take i).map (·.operation))).registry.zones,
        z.id = m.zone ∧ ∃ p ∈ z.slots, p.available = true)

/-- **A garage is full when no slot is free.**  With ids of zones that differ, of vehicles that ask
for any zones one after another just as many as there are free slots succeed, the first ones.  They
get different slots, and each one gets a slot in its zone if there is one left. -/
theorem submissions_exhaust_slots (hd : s.registry.DistinctIds) (subs : List Submission) :
    ∃ slots, s.HandsOut subs slots := by
  refine ⟨s.registry.grants (subs.map (·.zone)), ?_⟩
  constructor
  case length_eq =>
    rw [hd.length_grants, List.length_map, Registry.length_free]
  case nodup => exact s.registry.nodup_grants _
  case free =>
    intro h hh
    exact Registry.mem_free.mp (Registry.mem_free_of_mem_grants hh)
  case answer_eq =>
    intro i m hm
    rw [getElem?_answers_submit hd hm, Registry.length_free]
  case requests_eq => exact s.requests_run_submit subs
  case home_iff =>
    intro i m h hm hh
    exact home_iff_of_grants hd hm hh

/-- After the hand-over a second zone is opened, with two slots of its own.  Three more vehicles
come: the first one finds its zone full, the second one parks where it wants to, and the last one,
which asks for a zone that there is not, is turned away. -/
theorem submissions_exhaust_slots_handOver :
    let s := ((ofZones [twoSlots]).run handOver).addZone
      ((Zone.empty 2).addArea (Area.numbered 1 2 2))
    let subs : List Submission := [⟨"D", 1, ⟨1, 0⟩⟩, ⟨"E", 2, ⟨2, 0⟩⟩, ⟨"F", 9, ⟨3, 0⟩⟩]
    s.registry.DistinctIds ∧ (∃ slots, s.HandsOut subs slots) ∧
      s.answers (subs.map (·.operation)) =
        [.ok (.request 3), .ok (.request 4), .error (.noSlot 9)] := by
  intro s subs
  have hd : s.registry.DistinctIds := by decide
  exact ⟨hd, submissions_exhaust_slots hd subs, by decide⟩

end Facility

end Garage

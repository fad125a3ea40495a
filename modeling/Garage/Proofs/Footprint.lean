/-
# What a success touches

An operation that succeeds writes to the list of requests, to the registry and to the history, and
this file says how far that goes.  A submission touches one slot, the one that is chosen; parking
touches one request; and the end of a request touches this request, its slot and its record.

The last of these is not to be seen in the operation alone.  To cancel or to release never looks at
the slot of the request: whatever record of the request is found decides which slot becomes free.
That it is its own slot comes from the books (`Balanced.recordsOf_eq`): the records of a request are
one record of its slot, or none if it has no slot.
-/
import Garage.Proofs.Outcomes
import Garage.Proofs.Rollback
import Garage.Proofs.Undoing

namespace Garage

namespace Stage

variable {t : Stage} {id : RequestId}

lemma onOccupy_eq_ok_iff : t.onOccupy id = .ok () ↔ t = .allocated := by
  cases t <;> simp [onOccupy]

lemma onCancel_eq_ok_iff : t.onCancel id = .ok () ↔ t = .requested ∨ t = .allocated := by
  cases t <;> simp [onCancel]

lemma onRelease_eq_ok_iff : t.onRelease id = .ok () ↔ t = .occupied := by
  cases t <;> simp [onRelease]

end Stage

namespace Facility

variable {s : Facility} {id : RequestId} {r : Request} {t : Stage} {h : Handle}
  {vehicle : String} {zone : ZoneId} {now : Instant}

/-! ### A slot is given away -/

/-- `s'` is what becomes of `s` when a vehicle gets the slot at `h`. -/
structure GivesAway (s : Facility) (vehicle : String) (zone : ZoneId) (now : Instant) (h : Handle)
    (s' : Facility) : Prop where
  /-- The slot was free and is taken now. -/
  slot_taken : ∃ p, s.registry.slot? h = some p ∧ p.available = true ∧
    s'.registry.slot? h = some { p with available := false }
  /-- All other slots stay as they are. -/
  slot_kept : ∀ k, k ≠ h → s'.registry.slot? k = s.registry.slot? k
  /-- The zones, areas and slots stay what and where they are. -/
  plan_kept : s'.registry.plan = s.registry.plan
  /-- There is one more request, behind the others; it is allocated and has the slot. -/
  requests_eq : s'.requests =
    s.requests ++ [⟨s.requests.length, vehicle, zone, now, .allocated, some h⟩]
  /-- There is one more record, the newest one; it is the record of the request and its slot. -/
  records_eq : s'.history.records = ⟨h, true, s.requests.length, .requested⟩ :: s.history.records
  /-- A vehicle that was not known is remembered. -/
  vehicles_eq : s'.vehicles = (s.meet vehicle zone).vehicles

lemma givesAway (hc : s.registry.choose zone = some h) (vehicle : String) (now : Instant) :
    s.GivesAway vehicle zone now h (s.submit vehicle zone now).state := by
  obtain ⟨p, hp, hfree⟩ := Registry.mem_free.mp (Registry.mem_free_of_choose hc)
  rw [submit_of_choose hc]
  constructor
  case slot_taken =>
    refine ⟨p, hp, hfree, ?_⟩
    rw [allocate, meet_registry, Registry.slot?_setAvailable, if_pos rfl, hp]
    rfl
  case slot_kept =>
    intro k hk
    rw [allocate, meet_registry, Registry.slot?_setAvailable, if_neg hk]
  case plan_kept =>
    rw [allocate, meet_registry, Registry.plan_setAvailable]
  case requests_eq =>
    rw [allocate, meet_requests]
  case records_eq =>
    rw [allocate, meet_history]
    rfl
  case vehicles_eq => rfl

/-! ### A slot is given up -/

/-- `s'` is what becomes of `s` when the request `r` with this id ends in the stage `t`. -/
structure GivesUp (s : Facility) (id : RequestId) (r : Request) (t : Stage) (s' : Facility) :
    Prop where
  /-- The request is in the stage and has no slot any more; all others stay as they are. -/
  requests_eq : s'.requests = s.requests.set id { r with stage := t, slot := none }
  /-- If it had a slot, then this was taken and is free now. -/
  slot_freed : ∀ h, r.slot = some h → ∃ p, s.registry.slot? h = some p ∧ p.available = false ∧
    s'.registry.slot? h = some { p with available := true }
  /-- All other slots stay as they are. -/
  slot_kept : ∀ k, r.slot ≠ some k → s'.registry.slot? k = s.registry.slot? k
  /-- The zones, areas and slots stay what and where they are. -/
  plan_kept : s'.registry.plan = s.registry.plan
  /-- Its slot was the only thing on record about it. -/
  recordsOf_eq : s.history.recordsOf id =
    r.slot.toList.map fun h => ⟨h, true, id, .requested⟩
  /-- The records of the others stay, in their order, and no record of it does. -/
  records_eq : s'.history.records = s.history.recordsOfOthers id
  /-- The vehicles stay as they are. -/
  vehicles_kept : s'.vehicles = s.vehicles

namespace Balanced

/-- What is on record about a request is the slot that it holds. -/
lemma recordsOf_eq (hb : s.Balanced) (hr : s.request? id = some r) :
    s.history.recordsOf id = r.slot.toList.map fun h => ⟨h, true, id, .requested⟩ := by
  have hhead := hb.find?_history hr
  have hlen := hb.count_record hr
  rw [History.find?_eq_head?, Request.record?, hb.id_eq id r hr] at hhead
  rw [List.countP_eq_length_filter, ← History.recordsOf,
    ← hb.holds r (List.mem_of_getElem? hr)] at hlen
  cases hslot : r.slot with
  | none =>
    rw [hslot] at hlen
    exact List.length_eq_zero_iff.mp hlen
  | some h =>
    rw [hslot] at hhead hlen
    obtain ⟨e, he⟩ := List.length_eq_one_iff.mp hlen
    rw [he, List.head?_singleton, Option.map_some, Option.some.injEq] at hhead
    rw [he, hhead]
    rfl

/-- When one record of a request is struck out, no other one is left. -/
lemma records_eraseRequest (hb : s.Balanced) (hr : s.request? id = some r) :
    (s.history.eraseRequest id).records = s.history.recordsOfOthers id := by
  have hnil : (s.history.eraseRequest id).recordsOf id = [] := by
    rw [History.recordsOf_eraseRequest, hb.recordsOf_eq hr]
    cases r.slot <;> rfl
  rw [History.records_eq_of_recordsOf_eq_nil hnil, History.recordsOfOthers_eraseRequest]

lemma givesUp (hb : s.Balanced) (hr : s.request? id = some r) (ht : t.holdsSlot = false) :
    s.GivesUp id r t (s.vacate id t) := by
  have hslotOf : s.slotOf? id = r.slot := by
    rw [slotOf?, hr, Option.bind_some]
  constructor
  case requests_eq => exact (set_eq_modify (·.restore t) hr).symm
  case slot_freed =>
    intro h hslot
    obtain ⟨p, hp, htaken⟩ := hb.matched.slot_taken r (List.mem_of_getElem? hr) h hslot
    have hfreed := hb.slot?_vacateAll_of_mem ht (List.mem_singleton_self id)
      (hslotOf.trans hslot)
    rw [hp] at hfreed
    exact ⟨p, hp, htaken, hfreed⟩
  case slot_kept =>
    intro k hk
    show (s.vacateAll [id] t).registry.slot? k = s.registry.slot? k
    refine hb.slot?_vacateAll_of_forall_ne ht ?_
    intro i hi
    rw [List.mem_singleton.mp hi, hslotOf]
    exact hk
  case plan_kept => exact plan_vacate s id t
  case recordsOf_eq => exact hb.recordsOf_eq hr
  case records_eq => exact hb.records_eraseRequest hr
  case vehicles_kept => rfl

end Balanced

/-! ### Operations that succeed -/

/-- What each operation on a vehicle or a request changes when it succeeds; there is nothing else
that it changes. -/
structure Footprints (s : Facility) : Prop where
  /-- A submission gives away the slot that is chosen. -/
  submit : ∀ vehicle zone now id, (s.submit vehicle zone now).answer = .ok id →
    id = s.requests.length ∧ ∃ h, s.registry.choose zone = some h ∧
      s.GivesAway vehicle zone now h (s.submit vehicle zone now).state
  /-- Parking changes the stage of one request. -/
  occupy : ∀ id, (s.occupy id).answer = .ok () →
    ∃ r, s.request? id = some r ∧ r.stage = .allocated ∧ (s.occupy id).state =
      { s with requests := s.requests.set id { r with stage := .occupied } }
  /-- A cancelled request gives its slot up, unless it was only asked for and has none. -/
  cancel : ∀ id, (s.cancel id).answer = .ok () →
    ∃ r, s.request? id = some r ∧
      (r.stage = .requested ∧ r.slot = none ∨ r.stage = .allocated ∧ r.slot.isSome) ∧
      s.GivesUp id r .cancelled (s.cancel id).state
  /-- A released request gives its slot up. -/
  release : ∀ id, (s.release id).answer = .ok () →
    ∃ r, s.request? id = some r ∧ r.stage = .occupied ∧ r.slot.isSome ∧
      s.GivesUp id r .released (s.release id).state

namespace Balanced

lemma footprints (hb : s.Balanced) : s.Footprints := by
  have hn : s.Numbered := hb.id_eq
  constructor
  case submit =>
    intro vehicle zone now id hok
    cases hc : s.registry.choose zone with
    | none => simp [answer_submit, hc] at hok
    | some h =>
      rw [submit_of_choose hc] at hok
      exact ⟨(Except.ok.inj hok).symm, h, rfl, givesAway hc vehicle now⟩
  case occupy =>
    intro id hok
    cases hr : s.request? id with
    | none => simp [Facility.occupy, hr] at hok
    | some r =>
      rw [hn.answer_occupy hr, Stage.onOccupy_eq_ok_iff] at hok
      refine ⟨r, rfl, hok, ?_⟩
      rw [occupy_state hr (Stage.canBecome_occupied_iff.mpr hok), Facility.park,
        set_eq_modify (fun r => { r with stage := .occupied }) hr]
  case cancel =>
    intro id hok
    cases hr : s.request? id with
    | none => simp [Facility.cancel, hr] at hok
    | some r =>
      have hslot := hb.holds r (List.mem_of_getElem? hr)
      rw [hn.answer_cancel hr, Stage.onCancel_eq_ok_iff] at hok
      rw [cancel_state hr (Stage.canBecome_cancelled_iff.mpr hok)]
      refine ⟨r, rfl, ?_, hb.givesUp hr rfl⟩
      rcases hok with hstage | hstage <;> rw [hstage] at hslot
      · exact Or.inl ⟨hstage, Option.isNone_iff_eq_none.mp (Option.isSome_eq_false_iff.mp hslot)⟩
      · exact Or.inr ⟨hstage, hslot⟩
  case release =>
    intro id hok
    cases hr : s.request? id with
    | none => simp [Facility.release, hr] at hok
    | some r =>
      have hslot := hb.holds r (List.mem_of_getElem? hr)
      rw [hn.answer_release hr, Stage.onRelease_eq_ok_iff] at hok
      rw [release_state hr (Stage.canBecome_released_iff.mpr hok)]
      rw [hok] at hslot
      exact ⟨r, rfl, hok, hslot, hb.givesUp hr rfl⟩

end Balanced

/-- **A success touches what it is about.**  In every reachable facility, whatever was cancelled,
released or taken back before, a submission that succeeds takes the slot that is chosen, a vehicle
that parks moves its own request on, and a request that ends frees its own slot and takes its own
record out of the history.  Nothing else changes. -/
theorem successes_touch_their_own (hs : s.Reachable) : s.Footprints :=
  hs.balanced.footprints

/-- After three visits there is a slot for a fourth vehicle.  The third one, whose slot was taken
back, may still cancel, which frees nothing, and the first one frees its slot when it leaves. -/
theorem successes_touch_their_own_threeVisits :
    let s := (ofZones [twoSlots]).run threeVisits
    s.Footprints ∧
      (s.submit "D" 1 ⟨1, 0⟩).answer = .ok 3 ∧
      (s.submit "D" 1 ⟨1, 0⟩).state.registry.taken = [⟨0, 0, 0⟩, ⟨0, 0, 1⟩] ∧
      (s.cancel 2).answer = .ok () ∧ (s.cancel 2).state.registry = s.registry ∧
      (s.release 0).answer = .ok () ∧ (s.release 0).state.registry.taken = [] :=
  ⟨successes_touch_their_own ⟨_, _, allFree_twoSlots, addsFree_threeVisits, rfl⟩,
    by decide, by decide, by decide, by decide, by decide, by decide⟩

end Facility

end Garage

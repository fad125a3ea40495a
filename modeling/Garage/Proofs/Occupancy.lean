/-
# Who has which slot

Requests, registry and history agree about the slots that are in use in every facility that can
come about (`Reachable.balanced`).  This file says what that means to somebody who looks at the
facility from outside.

* `taken_slots_match_requests`: requests in the stages that hold a slot and slots that are not
  free correspond one to one, so that no slot is given away twice and none is lost.
* `history_matches_requests`: the history has one record for each slot that is held, in the order
  of the requests, and no operation ever comes upon a record that names what is not there.
-/
import Garage.Proofs.Ledger

namespace Garage

/-- The event warns of a record that names a slot or a request which is not there. -/
def Event.isDangling : Event → Bool
  | .unknownSlot _ | .unknownRequest _ => true
  | _ => false

lemma Request.moveEvents_not_dangling (r : Request) (t : Stage) :
    ∀ e ∈ r.moveEvents t, e.isDangling = false := by
  unfold moveEvents
  split <;> simp [Event.isDangling]

namespace Registry

lemma addZoneEvents_not_dangling (r : Registry) (z : Zone) :
    ∀ e ∈ r.addZoneEvents z, e.isDangling = false := by
  unfold addZoneEvents
  split <;> simp [Event.isDangling]

lemma chooseEvents_not_dangling (r : Registry) (zone : ZoneId) :
    ∀ e ∈ r.chooseEvents zone, e.isDangling = false := by
  unfold chooseEvents
  split
  · intro e he
    obtain ⟨z, -, rfl⟩ := List.mem_map.mp he
    rfl
  · simp

end Registry

namespace Facility

variable {s : Facility} {id : RequestId} {r : Request} {h : Handle}

/-! ### Requests and taken slots -/

/-- Requests that hold a slot and slots that are not free correspond one to one. -/
structure Matched (s : Facility) : Prop where
  /-- A request has a slot just while it is allocated or occupied. -/
  slot_iff : ∀ r ∈ s.requests,
    (∃ h, r.slot = some h) ↔ r.stage = .allocated ∨ r.stage = .occupied
  /-- The slot that a request has is there and is not free. -/
  slot_taken : ∀ r ∈ s.requests, ∀ h, r.slot = some h →
    ∃ p, s.registry.slot? h = some p ∧ p.available = false
  /-- Two requests never have the same slot. -/
  slot_inj : ∀ i j r r' h, s.request? i = some r → s.request? j = some r' →
    r.slot = some h → r'.slot = some h → i = j
  /-- A slot that is not free is the slot of some request. -/
  taken_slot : ∀ h p, s.registry.slot? h = some p → p.available = false →
    ∃ r ∈ s.requests, r.slot = some h
  /-- Free slots and requests that hold a slot make up all slots. -/
  count : s.registry.availableSlots +
    s.requests.countP (fun r => r.stage = .allocated ∨ r.stage = .occupied)
      = s.registry.totalSlots

namespace Balanced

lemma countP_holding (s : Facility) :
    s.requests.countP (fun r => r.stage = .allocated ∨ r.stage = .occupied)
      = s.requests.countP (·.stage.holdsSlot) :=
  List.countP_congr fun r _ => by simp [Stage.holdsSlot_iff]

lemma mem_held_iff : h ∈ s.held ↔ ∃ r ∈ s.requests, r.slot = some h :=
  List.mem_filterMap

lemma length_held (hb : s.Balanced) : s.held.length = s.requests.countP (·.stage.holdsSlot) := by
  rw [held, List.length_filterMap_eq_countP]
  exact List.countP_congr fun r hr => by rw [hb.holds r hr]

/-- The slots that are taken are those that requests hold, in another order. -/
lemma taken_perm_held (hb : s.Balanced) : s.registry.taken.Perm s.held := by
  rw [List.perm_ext_iff_of_nodup s.registry.taken_nodup hb.nodup]
  exact hb.mem_taken

/-- The slots that are taken are as many as the requests that hold one. -/
lemma length_taken (hb : s.Balanced) :
    s.registry.taken.length = s.requests.countP (·.stage.holdsSlot) := by
  rw [hb.taken_perm_held.length_eq, hb.length_held]

lemma slot_inj (hb : s.Balanced) {i j : RequestId} {r' : Request} (hi : s.request? i = some r)
    (hj : s.request? j = some r') (hslot : r.slot = some h) (hslot' : r'.slot = some h) :
    i = j := by
  have hpair := List.pairwise_filterMap.mp hb.nodup
  rw [List.pairwise_iff_getElem] at hpair
  obtain ⟨hilt, rfl⟩ := List.getElem?_eq_some_iff.mp hi
  obtain ⟨hjlt, rfl⟩ := List.getElem?_eq_some_iff.mp hj
  rcases Nat.lt_trichotomy i j with hij | hij | hij
  · exact absurd rfl (hpair i j hilt hjlt hij h hslot h hslot')
  · exact hij
  · exact absurd rfl (hpair j i hjlt hilt hij h hslot' h hslot)

lemma matched (hb : s.Balanced) : s.Matched where
  slot_iff r hr := by
    rw [← Stage.holdsSlot_iff, ← hb.holds r hr, Option.isSome_iff_exists]
  slot_taken r hr h hslot := by
    rw [← Registry.mem_taken, hb.mem_taken, mem_held_iff]
    exact ⟨r, hr, hslot⟩
  slot_inj _ _ _ _ _ := hb.slot_inj
  taken_slot h p hp htaken := by
    rw [← mem_held_iff, ← hb.mem_taken, Registry.mem_taken]
    exact ⟨p, hp, htaken⟩
  count := by
    rw [countP_holding, ← hb.length_taken, ← Registry.length_free,
      Registry.length_free_add_length_taken]

end Balanced

/-- **No double booking, no leaked slot.**  However zones with free slots only are registered and
requests come and go, the requests that are allocated or occupied and the slots that are not free
correspond one to one. -/
theorem taken_slots_match_requests {zones : List Zone} {ops : List Operation}
    (hzones : ∀ z ∈ zones, z.AllFree) (hops : ∀ op ∈ ops, op.AddsFree) :
    ((ofZones zones).run ops).Matched :=
  ((reachable_ofZones hzones).run hops).balanced.matched

/-- After three visits only the vehicle that parked has a slot. -/
theorem taken_slots_match_requests_threeVisits :
    ((ofZones [twoSlots]).run threeVisits).Matched ∧
      ((ofZones [twoSlots]).run threeVisits).registry.taken = [⟨0, 0, 0⟩] :=
  ⟨taken_slots_match_requests allFree_twoSlots addsFree_threeVisits, by decide⟩

/-! ### Requests and records -/

/-- The history has one record for each slot that a request holds. -/
structure Recorded (s : Facility) : Prop where
  /-- From the oldest record on, the ids of the requests increase. -/
  sorted : s.history.records.reverse.Pairwise fun e e' => e.request < e'.request
  /-- A record names a request that holds the slot of the record.  The slot was free and the
  request was only asked for. -/
  record_holds : ∀ e ∈ s.history.records, ∃ r, s.request? e.request = some r ∧
    (r.stage = .allocated ∨ r.stage = .occupied) ∧ r.slot = some e.slot ∧
    e.wasAvailable = true ∧ e.stage = .requested
  /-- A request has one record while it holds a slot, and none otherwise. -/
  count_record : ∀ i r, s.request? i = some r → s.history.records.countP (·.request == i)
    = if r.stage = .allocated ∨ r.stage = .occupied then 1 else 0
  /-- There are as many records as requests that hold a slot. -/
  size_eq : s.history.size
    = s.requests.countP fun r => r.stage = .allocated ∨ r.stage = .occupied
  /-- There are as many records as slots that are not free. -/
  size_taken : s.history.size = s.registry.slots.countP (!·.available)
  /-- No operation comes upon a record that names what is not there. -/
  not_dangling : ∀ op, ∀ e ∈ (s.perform op).events, e.isDangling = false

namespace Balanced

lemma size_history (hb : s.Balanced) : s.history.size = s.requests.countP (·.stage.holdsSlot) := by
  rw [History.size, hb.records_eq, outstanding, List.length_reverse,
    List.length_filterMap_eq_countP]
  refine List.countP_congr fun r hr => ?_
  rw [Request.record?, Option.isSome_map, hb.holds r hr]

lemma records_sorted (hb : s.Balanced) :
    s.history.records.reverse.Pairwise fun e e' => e.request < e'.request := by
  rw [hb.records_eq, outstanding, List.reverse_reverse, List.pairwise_filterMap]
  refine hb.ids_sorted.imp fun hlt e he e' he' => ?_
  rw [(Request.record?_eq_some_iff.mp he).2.2.1, (Request.record?_eq_some_iff.mp he').2.2.1]
  exact hlt

lemma count_record (hb : s.Balanced) (hr : s.request? id = some r) :
    s.history.records.countP (·.request == id) = if r.stage.holdsSlot then 1 else 0 := by
  obtain ⟨l₁, l₂, hreq, -⟩ := exists_split hr
  obtain ⟨hbefore, hafter⟩ := hb.request_ne hreq
  rw [← hb.id_eq id r hr, hb.records_split hreq, List.countP_append, List.countP_append,
    List.countP_eq_zero.mpr hbefore, List.countP_eq_zero.mpr hafter,
    ← hb.holds r (List.mem_of_getElem? hr)]
  cases hslot : r.slot <;> simp [Request.record?, hslot]

/-- A record names a slot and a request that are there. -/
lemma record_resolves (hb : s.Balanced) {e : Record} (he : e ∈ s.history.records) :
    e.slotEvents s.registry = [] ∧ e.requestEvents s.requests = [] := by
  obtain ⟨r, hr, hrecord⟩ := hb.mem_records he
  have hslot := (Request.record?_eq_some_iff.mp hrecord).1
  obtain ⟨p, hp, -⟩ := hb.matched.slot_taken r (List.mem_of_getElem? hr) e.slot hslot
  have hlt : e.request < s.requests.length := (List.getElem?_eq_some_iff.mp hr).1
  simp [Record.slotEvents, Record.requestEvents, hp, hlt]

lemma size_taken (hb : s.Balanced) :
    s.history.size = s.registry.slots.countP (!·.available) := by
  rw [← Registry.length_taken, hb.length_taken, hb.size_history]

end Balanced

/-! ### No operation comes upon a lost slot or request -/

lemma meetEvents_not_dangling (s : Facility) (vehicle : String) (zone : ZoneId) :
    ∀ e ∈ s.meetEvents vehicle zone, e.isDangling = false := by
  unfold meetEvents
  split <;> simp [Event.isDangling]

lemma submit_not_dangling (s : Facility) (vehicle : String) (zone : ZoneId) (now : Instant) :
    ∀ e ∈ (s.submit vehicle zone now).events, e.isDangling = false := by
  have hbefore := List.forall_mem_append.mpr
    ⟨s.meetEvents_not_dangling vehicle zone, s.registry.chooseEvents_not_dangling zone⟩
  unfold submit
  dsimp only
  split
  · exact List.forall_mem_append.mpr ⟨hbefore, by simp [Event.isDangling]⟩
  split
  · exact List.forall_mem_append.mpr ⟨hbefore, Request.moveEvents_not_dangling _ _⟩
  split
  · exact hbefore
  · exact List.forall_mem_append.mpr ⟨hbefore, by simp [Event.isDangling]⟩

lemma occupy_not_dangling (s : Facility) (id : RequestId) :
    ∀ e ∈ (s.occupy id).events, e.isDangling = false := by
  unfold occupy
  split
  · simp
  split
  · exact Request.moveEvents_not_dangling _ _
  · simp [Event.isDangling]

namespace Balanced

/-- The end of a request looks at a record of its own only. -/
lemma finish_not_dangling (hb : s.Balanced) (id : RequestId) (r : Request) (target : Stage)
    {done : Event} (hdone : done.isDangling = false) :
    ∀ e ∈ (s.finish id r target done).events, e.isDangling = false := by
  unfold finish History.undo
  split
  · exact Request.moveEvents_not_dangling _ _
  · cases hfind : s.history.find? id with
    | none => simpa using hdone
    | some e =>
      have hslot := (hb.record_resolves (List.mem_of_find?_eq_some hfind)).1
      simpa [hslot, Event.isDangling] using hdone

lemma cancel_not_dangling (hb : s.Balanced) (id : RequestId) :
    ∀ e ∈ (s.cancel id).events, e.isDangling = false := by
  unfold cancel
  split
  · simp
  split
  · simp
  · exact hb.finish_not_dangling id _ .cancelled rfl

lemma release_not_dangling (hb : s.Balanced) (id : RequestId) :
    ∀ e ∈ (s.release id).events, e.isDangling = false := by
  unfold release
  split
  · simp
  split
  · exact hb.finish_not_dangling id _ .released rfl
  · simp

lemma rollback_not_dangling (hb : s.Balanced) (k : Nat) :
    ∀ e ∈ (s.rollback k).events, e.isDangling = false := by
  have hwarn : (s.history.takeNewest k).flatMap (fun e =>
      e.slotEvents s.registry ++ e.requestEvents s.requests) = [] := by
    rw [List.flatMap_eq_nil_iff]
    intro e he
    obtain ⟨hslot, hrequest⟩ := hb.record_resolves (List.mem_of_mem_take he)
    rw [hslot, hrequest, List.append_nil]
  rw [rollback_eq]
  simp [History.rollbackEvents, hwarn, Event.isDangling]

lemma not_dangling (hb : s.Balanced) (op : Operation) :
    ∀ e ∈ (s.perform op).events, e.isDangling = false := by
  cases op with
  | addZone z => exact s.registry.addZoneEvents_not_dangling z
  | submit vehicle zone now => exact s.submit_not_dangling vehicle zone now
  | occupy id => exact s.occupy_not_dangling id
  | cancel id => exact hb.cancel_not_dangling id
  | release id => exact hb.release_not_dangling id
  | rollback k => exact hb.rollback_not_dangling k

lemma recorded (hb : s.Balanced) : s.Recorded where
  sorted := hb.records_sorted
  record_holds e he := by
    obtain ⟨r, hr, hrecord⟩ := hb.mem_records he
    obtain ⟨hslot, havailable, -, hstage⟩ := Request.record?_eq_some_iff.mp hrecord
    refine ⟨r, hr, ?_, hslot, havailable, hstage⟩
    rw [← Stage.holdsSlot_iff, ← hb.holds r (List.mem_of_getElem? hr), hslot]
    rfl
  count_record i r hr := by
    rw [hb.count_record hr]
    simp only [Stage.holdsSlot_iff]
  size_eq := by
    rw [countP_holding, hb.size_history]
  size_taken := hb.size_taken
  not_dangling := hb.not_dangling

end Balanced

/-- **The history is the list of the slots that are held.**  In every reachable facility there is
just one record for each request that is allocated or occupied, in the order of the requests, and
it says what a rollback has to bring back. -/
theorem history_matches_requests (hs : s.Reachable) : s.Recorded :=
  hs.balanced.recorded

/-- After three visits only the allocation to the vehicle that parked is on record. -/
theorem history_matches_requests_threeVisits :
    ((ofZones [twoSlots]).run threeVisits).Recorded ∧
      ((ofZones [twoSlots]).run threeVisits).history.records =
        [⟨⟨0, 0, 0⟩, true, 0, .requested⟩] :=
  ⟨history_matches_requests ⟨_, _, allFree_twoSlots, addsFree_threeVisits, rfl⟩, by decide⟩

end Facility

end Garage

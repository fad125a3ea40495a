/-
# Savepoints

The size of the history marks a point to which a facility can be brought back, as long as nothing
reaches back behind that point in the meantime: no zone is registered, only newer requests are
parked, cancelled or released, and no rollback goes further than to the mark
(`Facility.Spares`).  Then a rollback of all that the history has more than before gives the
registry and the history of the savepoint back (`rollback_to_savepoint`), although slots may have
been given up and taken again by several requests meanwhile.

What carries the proof is that the facility of the savepoint stays a part of the later one
(`Facility.Extends`).  Of its requests nothing changes, and these make up all the rest.
-/
import Garage.Proofs.Independence
import Garage.Proofs.Rollback

namespace Garage

/-- The operation, done in the facility `now`, leaves alone what was there in the facility `s`. -/
def Operation.Spares (s now : Facility) : Operation → Prop
  | .addZone _ => False
  | .submit .. => True
  | .occupy id | .cancel id | .release id => s.requests.length ≤ id
  | .rollback k => k ≤ now.history.size - s.history.size

instance (s now : Facility) (op : Operation) : Decidable (op.Spares s now) :=
  match op with
  | .addZone _ => isFalse id
  | .submit .. => isTrue trivial
  | .occupy id | .cancel id | .release id =>
    inferInstanceAs (Decidable (s.requests.length ≤ id))
  | .rollback k => inferInstanceAs (Decidable (k ≤ now.history.size - s.history.size))

namespace Facility

/-- The run, which goes on from the facility `now`, leaves alone what was there in the facility
`s`. -/
def Spares (s : Facility) : Facility → List Operation → Prop
  | _, [] => True
  | now, op :: ops => op.Spares s now ∧ s.Spares (now.after op) ops

instance decidableSpares (s : Facility) :
    (now : Facility) → (ops : List Operation) → Decidable (s.Spares now ops)
  | _, [] => isTrue trivial
  | now, op :: ops =>
    have := decidableSpares s (now.after op) ops
    inferInstanceAs (Decidable (op.Spares s now ∧ s.Spares (now.after op) ops))

/-- The requests which hold a slot in the facility `now` and were not there in the facility `s`. -/
def holdersSince (s now : Facility) : List RequestId :=
  now.holders.filter fun i => s.requests.length ≤ i

/-- What was there in the facility `s` is still there in the facility `now`. -/
structure Extends (s now : Facility) : Prop where
  balanced : now.Balanced
  plan_eq : now.registry.plan = s.registry.plan
  request_eq : ∀ i < s.requests.length, now.request? i = s.request? i

variable {s now : Facility} {op : Operation} {id : RequestId}

lemma mem_holdersSince :
    id ∈ s.holdersSince now ↔ id ∈ now.holders ∧ s.requests.length ≤ id := by
  rw [holdersSince, List.mem_filter, decide_eq_true_iff]

namespace Extends

lemma refl (hb : s.Balanced) : s.Extends s where
  balanced := hb
  plan_eq := rfl
  request_eq _ _ := rfl

/-- The requests that hold a slot: newer ones in front of those of the savepoint. -/
lemma holders_eq (he : s.Extends now) : now.holders = s.holdersSince now ++ s.holders := by
  have hold {i : RequestId} (hi : i ∈ s.holders) : i < s.requests.length := by
    obtain ⟨r, hr, -⟩ := mem_holders.mp hi
    exact (List.getElem?_eq_some_iff.mp hr).1
  have hsorted : (s.holdersSince now ++ s.holders).Pairwise (· > ·) := by
    rw [List.pairwise_append]
    refine ⟨now.holders_sorted.filter _, s.holders_sorted, fun i hi j hj => ?_⟩
    exact Nat.lt_of_lt_of_le (hold hj) (mem_holdersSince.mp hi).2
  apply now.holders_sorted.eq_of_mem_iff hsorted
  intro i
  rw [List.mem_append, mem_holdersSince]
  by_cases hi : i < s.requests.length
  · rw [mem_holders, he.request_eq i hi, ← mem_holders]
    simp [Nat.not_le_of_lt hi]
  · have hnot : i ∉ s.holders := fun hmem => hi (hold hmem)
    simp [hnot, Nat.le_of_not_lt hi]

lemma length_holdersSince (he : s.Extends now) (hb : s.Balanced) :
    (s.holdersSince now).length + s.history.size = now.history.size := by
  rw [← he.balanced.length_holders, ← hb.length_holders, he.holders_eq, List.length_append]

/-- A rollback to the savepoint is for all newer requests that hold a slot. -/
lemma take_holders (he : s.Extends now) (hb : s.Balanced) :
    now.holders.take (now.history.size - s.history.size) = s.holdersSince now := by
  have hlen := he.length_holdersSince hb
  rw [he.holders_eq, List.take_append_of_le_length (by omega), List.take_of_length_le (by omega)]

/-- A rollback that goes no further than to the savepoint is for newer requests only. -/
lemma le_of_mem_take (he : s.Extends now) (hb : s.Balanced) {k : Nat}
    (hk : k ≤ now.history.size - s.history.size) (hid : id ∈ now.holders.take k) :
    s.requests.length ≤ id := by
  have hmem := (List.take_sublist_take_left hk).subset hid
  rw [he.take_holders hb] at hmem
  exact (mem_holdersSince.mp hmem).2

/-! ### What spares the savepoint -/

lemma of_subject? (he : s.Extends now) (hop : op.subject? = some id)
    (hid : s.requests.length ≤ id) : s.Extends (now.after op) where
  balanced := he.balanced.after (Operation.addsFree_of_subject? (Option.isSome_of_eq_some hop))
  plan_eq := by
    rw [plan_after hop, he.plan_eq]
  request_eq i hi := by
    rw [request?_after hop, if_neg (Nat.ne_of_gt (Nat.lt_of_lt_of_le hi hid)), he.request_eq i hi]

lemma submit (he : s.Extends now) (vehicle : String) (zone : ZoneId) (time : Instant) :
    s.Extends (now.after (.submit vehicle zone time)) where
  balanced := he.balanced.after trivial
  plan_eq := by
    rw [plan_submit, he.plan_eq]
  request_eq i hi := by
    have hlt : i < now.requests.length := by
      have hsome := he.request_eq i hi
      rw [request?, request?, List.getElem?_eq_getElem hi] at hsome
      exact (List.getElem?_eq_some_iff.mp hsome).1
    rw [request?_submit _ _ _ hlt, he.request_eq i hi]

lemma rollback (he : s.Extends now) (hb : s.Balanced) {k : Nat}
    (hk : k ≤ now.history.size - s.history.size) : s.Extends (now.after (.rollback k)) where
  balanced := he.balanced.after trivial
  plan_eq := by
    rw [plan_rollback, he.plan_eq]
  request_eq i hi := by
    have hnot : i ∉ now.holders.take k := fun hmem =>
      absurd (he.le_of_mem_take hb hk hmem) (Nat.not_le_of_lt hi)
    rw [he.balanced.request?_after_rollback, if_neg hnot, he.request_eq i hi]

lemma after (he : s.Extends now) (hb : s.Balanced) (hop : op.Spares s now) :
    s.Extends (now.after op) := by
  cases op with
  | addZone => cases hop
  | submit vehicle zone time => exact he.submit vehicle zone time
  | occupy | cancel | release => exact he.of_subject? rfl hop
  | rollback => exact he.rollback hb hop

lemma run (he : s.Extends now) (hb : s.Balanced) {ops : List Operation}
    (hops : s.Spares now ops) : s.Extends (now.run ops) := by
  induction ops generalizing now with
  | nil => exact he
  | cons op ops ih => exact ih (he.after hb hops.1) hops.2

/-! ### Back at the savepoint -/

lemma exists_requests_eq (he : s.Extends now) : ∃ newer, now.requests = s.requests ++ newer := by
  have hprefix : s.requests <+: now.requests := by
    rw [List.prefix_iff_getElem?]
    intro i hi
    have heq : now.requests[i]? = s.requests[i]? := he.request_eq i hi
    rw [heq, List.getElem?_eq_getElem hi]
  obtain ⟨newer, hrequests⟩ := hprefix
  exact ⟨newer, hrequests.symm⟩

/-- With newer requests that hold no slot, all slots and records are those of the savepoint. -/
lemma eq_of_forall_slot_eq_none (he : s.Extends now) (hb : s.Balanced)
    (hnew : ∀ i r, s.requests.length ≤ i → now.request? i = some r → r.slot = none) :
    now.registry = s.registry ∧ now.history = s.history := by
  obtain ⟨newer, hrequests⟩ := he.exists_requests_eq
  have hslot : ∀ r ∈ newer, r.slot = none := by
    intro r hr
    obtain ⟨i, hi⟩ := List.mem_iff_getElem?.mp hr
    refine hnew (s.requests.length + i) r (Nat.le_add_right _ _) ?_
    rw [request?, hrequests, List.getElem?_append_right (Nat.le_add_right _ _),
      Nat.add_sub_cancel_left, hi]
  have hrecord : ∀ r ∈ newer, r.record? = none := by
    intro r hr
    rw [Request.record?, hslot r hr, Option.map_none]
  -- So the newer requests add nothing to the lists that make up registry and history.
  have hheld : now.held = s.held := by
    rw [held, hrequests, List.filterMap_append, List.filterMap_eq_nil_iff.mpr hslot,
      List.append_nil, held]
  have hout : now.outstanding = s.outstanding := by
    rw [outstanding, hrequests, List.filterMap_append, List.filterMap_eq_nil_iff.mpr hrecord,
      List.append_nil, outstanding]
  exact ⟨he.balanced.registry_eq hb he.plan_eq hheld, he.balanced.history_eq hb hout⟩

/-- After a rollback to the savepoint, no newer request holds a slot. -/
lemma not_holdsSlot (he : s.Extends now) (hb : s.Balanced) {r : Request}
    (hid : s.requests.length ≤ id)
    (hr : (now.after (.rollback (now.history.size - s.history.size))).request? id = some r) :
    r.stage.holdsSlot = false := by
  rw [he.balanced.request?_after_rollback, he.take_holders hb] at hr
  split at hr
  · obtain ⟨r₀, -, rfl⟩ := Option.map_eq_some_iff.mp hr
    rfl
  next hnot =>
    refine Bool.eq_false_iff.mpr fun hholds => hnot ?_
    exact mem_holdersSince.mpr ⟨mem_holders.mpr ⟨r, hr, hholds⟩, hid⟩

end Extends

/-- The facility `now` can be brought back to the savepoint `s`. -/
structure RestoredBy (s now : Facility) (k : Nat) : Prop where
  /-- Every slot is what it was. -/
  registry_eq : (now.after (.rollback k)).registry = s.registry
  /-- The same allocations are on record. -/
  history_eq : (now.after (.rollback k)).history = s.history
  /-- Requests from before the savepoint are what they were. -/
  request_eq : ∀ i < s.requests.length, (now.after (.rollback k)).request? i = s.request? i
  /-- Requests from after the savepoint have come to nothing. -/
  newer : ∀ i r, s.requests.length ≤ i → (now.after (.rollback k)).request? i = some r →
    (r.stage = .requested ∨ r.stage = .cancelled ∨ r.stage = .released) ∧ r.slot = none

lemma Extends.restoredBy (he : s.Extends now) (hb : s.Balanced) :
    s.RestoredBy now (now.history.size - s.history.size) := by
  have hback := he.rollback hb (Nat.le_refl _)
  have hnewer {i : RequestId} {r : Request} (hi : s.requests.length ≤ i)
      (hr : (now.after (.rollback (now.history.size - s.history.size))).request? i = some r) :
      r.stage.holdsSlot = false ∧ r.slot = none := by
    have hholds := he.not_holdsSlot hb hi hr
    have hslot := hback.balanced.holds r (List.mem_of_getElem? hr)
    rw [hholds] at hslot
    exact ⟨hholds, by simpa using hslot⟩
  obtain ⟨hregistry, hhistory⟩ :=
    hback.eq_of_forall_slot_eq_none hb fun i r hi hr => (hnewer hi hr).2
  refine ⟨hregistry, hhistory, hback.request_eq, fun i r hi hr => ?_⟩
  obtain ⟨hholds, hslot⟩ := hnewer hi hr
  exact ⟨Stage.holdsSlot_eq_false_iff.mp hholds, hslot⟩

/-- **The savepoint law.**  A run that leaves alone what was there at a savepoint never has fewer
allocations on record than the savepoint.  Taking back as many as there are more gives registry,
history and requests of the savepoint back, and what was asked for since then has no slot. -/
theorem rollback_to_savepoint (hs : s.Reachable) {ops : List Operation} (hops : s.Spares s ops) :
    s.history.size ≤ (s.run ops).history.size ∧
    s.RestoredBy (s.run ops) ((s.run ops).history.size - s.history.size) := by
  have hb := hs.balanced
  have he := (Extends.refl hb).run hb hops
  have hlen := he.length_holdersSince hb
  exact ⟨by omega, he.restoredBy hb⟩

/-- After three visits one slot is free.  It is given to three vehicles in turn: the first one goes
away, the second one parks but has its slot taken back, and the third one still has it when all is
brought back. -/
theorem rollback_to_savepoint_threeVisits :
    let s := (ofZones [twoSlots]).run threeVisits
    let ops : List Operation := [.submit "D" 1 ⟨1, 0⟩, .submit "E" 1 ⟨2, 0⟩, .cancel 3,
      .submit "F" 1 ⟨3, 0⟩, .occupy 4, .release 9, .rollback 1, .submit "G" 1 ⟨4, 0⟩]
    s.Spares s ops ∧ s.history.size ≤ (s.run ops).history.size ∧ s.RestoredBy (s.run ops) 1 ∧
      (s.run ops).registry.free = [] ∧ s.registry.free = [⟨0, 0, 1⟩] := by
  intro s ops
  have hs : s.Reachable := ⟨_, _, allFree_twoSlots, addsFree_threeVisits, rfl⟩
  have hops : s.Spares s ops := by decide
  have hmore : (s.run ops).history.size - s.history.size = 1 := by decide
  obtain ⟨hsize, hrestored⟩ := rollback_to_savepoint hs hops
  rw [hmore] at hrestored
  exact ⟨hops, hsize, hrestored, by decide, by decide⟩

end Facility

end Garage

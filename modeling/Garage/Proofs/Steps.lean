/-
# What operations do to a facility

Every operation is made of a few changes of the whole state: a zone is registered, a vehicle is
met, a slot is allocated, a vehicle parks, or a request gives its slot up.  The last one,
`Facility.vacate`, is behind the end of a request as well as behind a rollback, which does it over
and over to the request of the newest record (`after_rollback`).  The theorems `after_submit` to
`after_rollback` say what an operation comes to; afterwards no operation has to be opened again.

`Facility.Reachable` are the facilities that come about by operations out of zones whose slots are
all free.
-/
import Garage.Operation
import Garage.Proofs.Choice
import Mathlib.Logic.Function.Iterate

namespace Garage

lemma set_eq_modify {α : Type} {l : List α} {i : Nat} {a : α} (f : α → α) (hi : l[i]? = some a) :
    l.set i (f a) = l.modify i f := by
  apply List.ext_getElem?
  intro j
  rw [List.getElem?_set, List.getElem?_modify]
  by_cases hij : i = j
  · subst hij
    obtain ⟨hlt, rfl⟩ := List.getElem?_eq_some_iff.mp hi
    simp [hlt]
  · simp [hij]

/-- Of members that are equal only the first one is kept. -/
lemma eraseDups_concat {α : Type} [DecidableEq α] (xs : List α) (x : α) :
    (xs ++ [x]).eraseDups = if x ∈ xs then xs.eraseDups else xs.eraseDups ++ [x] := by
  rw [List.eraseDups_append]
  split
  case isTrue hx => simp [List.removeAll, hx]
  case isFalse hx => simp [List.removeAll, hx, List.eraseDups_cons]

lemma nodup_map_concat {α β : Type} (g : α → β) (xs : List α) (x : α) :
    ((xs ++ [x]).map g).Nodup ↔ g x ∉ xs.map g ∧ (xs.map g).Nodup := by
  rw [List.map_append, List.map_singleton, ← List.concat_eq_append, List.nodup_concat]

namespace Stage

/-- A request holds a slot while it is allocated or occupied. -/
lemma holdsSlot_iff {t : Stage} : t.holdsSlot = true ↔ t = .allocated ∨ t = .occupied := by
  cases t <;> decide

lemma holdsSlot_eq_false_iff {t : Stage} :
    t.holdsSlot = false ↔ t = .requested ∨ t = .cancelled ∨ t = .released := by
  cases t <;> decide

lemma canBecome_occupied_iff {t : Stage} : t.canBecome .occupied = true ↔ t = .allocated := by
  cases t <;> decide

lemma canBecome_cancelled_iff {t : Stage} :
    t.canBecome .cancelled = true ↔ t = .requested ∨ t = .allocated := by
  cases t <;> decide

lemma canBecome_released_iff {t : Stage} : t.canBecome .released = true ↔ t = .occupied := by
  cases t <;> decide

end Stage

lemma Request.moveTo_eq_error {r : Request} {t : Stage} (hmove : r.stage.canBecome t = false) :
    r.moveTo t = .error (.invalidMove r.id r.stage t) := by
  rw [moveTo, hmove]
  rfl

namespace Facility

/-- The vehicle of a request parks. -/
def park (s : Facility) (id : RequestId) : Facility :=
  { s with requests := s.requests.modify id fun r => { r with stage := .occupied } }

/-- A request goes to another stage and gives its slot up: its newest record is taken out of the
history, and the slot that the record names is what it was before. -/
def vacate (s : Facility) (id : RequestId) (stage : Stage) : Facility :=
  { s with
    registry := (s.history.find? id).elim s.registry (·.restoreSlot s.registry)
    requests := s.requests.modify id (·.restore stage)
    history := s.history.eraseRequest id }

/-- The newest allocation that is outstanding is taken back. -/
def takeBack (s : Facility) : Facility :=
  match s.history.newest? with
  | none => s
  | some e => s.vacate e.request e.stage

variable {s : Facility} {id : RequestId} {r : Request}

lemma request?_park (s : Facility) (i id : RequestId) : (s.park i).request? id =
    if i = id then (s.request? id).map fun r => { r with stage := .occupied }
    else s.request? id := by
  simp only [request?, park, List.getElem?_modify]
  split <;> simp

lemma request?_vacate (s : Facility) (i id : RequestId) (t : Stage) : (s.vacate i t).request? id =
    if i = id then (s.request? id).map (·.restore t) else s.request? id := by
  simp only [request?, vacate, List.getElem?_modify]
  split <;> simp

/-! ### The operations in terms of these changes -/

lemma occupy_state (hr : s.request? id = some r) (hmove : r.stage.canBecome .occupied = true) :
    (s.occupy id).state = s.park id := by
  have hok : r.moveTo .occupied = .ok { r with stage := .occupied } :=
    Request.moveTo_eq_ok_iff.mpr ⟨hmove, rfl⟩
  simp only [occupy, hr, hok, park]
  rw [set_eq_modify (fun r => { r with stage := .occupied }) hr]

lemma finish_state (hr : s.request? id = some r) {target : Stage}
    (hmove : r.stage.canBecome target = true) (done : Event) :
    (s.finish id r target done).state = s.vacate id target := by
  have hok : r.moveTo target = .ok { r with stage := target } :=
    Request.moveTo_eq_ok_iff.mpr ⟨hmove, rfl⟩
  simp only [finish, hok, vacate, History.undo]
  rw [← set_eq_modify (·.restore target) hr]
  cases hf : s.history.find? id with
  | none =>
    rw [History.eraseRequest_of_find?_eq_none hf]
    rfl
  | some e => rfl

lemma cancel_state (hr : s.request? id = some r) (hmove : r.stage.canBecome .cancelled = true) :
    (s.cancel id).state = s.vacate id .cancelled := by
  have hfinal : r.stage.isFinal = false := by
    rcases Stage.canBecome_cancelled_iff.mp hmove with h | h <;> rw [h] <;> rfl
  simp [cancel, hr, hfinal, finish_state hr hmove]

lemma release_state (hr : s.request? id = some r) (hmove : r.stage.canBecome .released = true) :
    (s.release id).state = s.vacate id .released := by
  have hholds : r.stage.holdsSlot = true :=
    Stage.holdsSlot_iff.mpr (Or.inr (Stage.canBecome_released_iff.mp hmove))
  simp [release, hr, hholds, finish_state hr hmove]

lemma rollback_eq (s : Facility) (k : Nat) : s.rollback k =
    ⟨(s.history.takeNewest k).length,
      { s with
        registry := s.registry.restoreAll (s.history.takeNewest k)
        requests := restoreRequests s.requests (s.history.takeNewest k)
        history := s.history.dropNewest k },
      s.history.rollbackEvents k s.registry s.requests⟩ := by
  rw [rollback, History.rollback_eq]

lemma rollback_state (s : Facility) (k : Nat) : (s.rollback k).state = takeBack^[k] s := by
  induction k generalizing s with
  | zero =>
    rw [rollback_eq]
    rfl
  | succ k ih =>
    rw [Function.iterate_succ_apply, ← ih, rollback_eq, rollback_eq]
    -- The newest record comes first in both; only the first turn of each fold is left to compare.
    obtain ⟨registry, vehicles, requests, ⟨records⟩⟩ := s
    cases records with
    | nil => simp [takeBack, History.newest?, History.takeNewest, History.dropNewest]
    | cons e rest =>
      simp [takeBack, History.newest?, History.takeNewest, History.dropNewest, vacate,
        History.find?, History.eraseRequest, Registry.restoreAll, restoreRequests,
        Record.restoreRequest]

/-! ### The state after each operation -/

/-- What a submission that finds a slot answers, does and reports.  The record says that the slot
was free and that the request was only asked for. -/
lemma submit_of_choose {zone : ZoneId} {h : Handle} (hc : s.registry.choose zone = some h)
    (vehicle : String) (now : Instant) : s.submit vehicle zone now =
      ⟨.ok s.requests.length,
        (s.meet vehicle zone).allocate
          ⟨s.requests.length, vehicle, zone, now, .allocated, none⟩ h true .requested,
        s.meetEvents vehicle zone ++ s.registry.chooseEvents zone ++
          [.allocated s.requests.length vehicle h zone]⟩ := by
  obtain ⟨p, hp, hfree⟩ := Registry.mem_free.mp (Registry.mem_free_of_choose hc)
  simp [submit, hc, hp, hfree, Request.new, Request.moveTo, Stage.canBecome]

/-- A submission remembers the vehicle; if there is a slot, then a new request gets it. -/
lemma after_submit (s : Facility) (vehicle : String) (zone : ZoneId) (now : Instant) :
    (s.registry.choose zone = none ∧
      s.after (.submit vehicle zone now) = s.meet vehicle zone) ∨
    ∃ h, s.registry.choose zone = some h ∧
      s.after (.submit vehicle zone now) = (s.meet vehicle zone).allocate
        ⟨s.requests.length, vehicle, zone, now, .allocated, none⟩ h true .requested := by
  cases hc : s.registry.choose zone with
  | none => exact Or.inl ⟨rfl, by simp [after, perform, submit, hc]⟩
  | some h => exact Or.inr ⟨h, rfl, by rw [after, perform, submit_of_choose hc]⟩

/-- A submission fails for want of a slot only: what is chosen is there, and a new request may be
allocated. -/
lemma answer_submit (s : Facility) (vehicle : String) (zone : ZoneId) (now : Instant) :
    (s.submit vehicle zone now).answer =
      if (s.registry.choose zone).isSome then .ok s.requests.length else .error (.noSlot zone) := by
  cases hc : s.registry.choose zone with
  | none => simp [submit, hc]
  | some h =>
    rw [submit_of_choose hc]
    rfl

lemma answer_perform_submit (s : Facility) (vehicle : String) (zone : ZoneId) (now : Instant) :
    (s.perform (.submit vehicle zone now)).answer = if (s.registry.choose zone).isSome
      then .ok (.request s.requests.length) else .error (.noSlot zone) := by
  rw [perform, answer_submit]
  split <;> rfl

/-- A submission appends a request with its slot if there is one, and otherwise nothing. -/
lemma requests_submit (s : Facility) (vehicle : String) (zone : ZoneId) (now : Instant) :
    (s.after (.submit vehicle zone now)).requests = s.requests ++
      (s.registry.choose zone).toList.map fun h =>
        ⟨s.requests.length, vehicle, zone, now, .allocated, some h⟩ := by
  rcases after_submit s vehicle zone now with ⟨hc, hafter⟩ | ⟨h, hc, hafter⟩ <;> rw [hafter, hc]
  · rw [meet_requests, Option.toList_none, List.map_nil, List.append_nil]
  · rw [allocate, meet_requests]
    rfl

/-- A submission leaves the requests alone that are there. -/
lemma request?_submit (vehicle : String) (zone : ZoneId) (now : Instant)
    (hid : id < s.requests.length) :
    (s.after (.submit vehicle zone now)).request? id = s.request? id := by
  rw [request?, requests_submit, List.getElem?_append_left hid, request?]

lemma after_occupy (s : Facility) (id : RequestId) :
    s.after (.occupy id) = s ∨
    ∃ r, s.request? id = some r ∧ r.stage = .allocated ∧ s.after (.occupy id) = s.park id := by
  cases hr : s.request? id with
  | none => exact Or.inl (by simp [after, perform, occupy, hr])
  | some r =>
    cases hmove : r.stage.canBecome .occupied with
    | true => exact Or.inr ⟨r, rfl, Stage.canBecome_occupied_iff.mp hmove, occupy_state hr hmove⟩
    | false => exact Or.inl (by simp [after, perform, occupy, hr, Request.moveTo_eq_error hmove])

lemma after_cancel (s : Facility) (id : RequestId) :
    s.after (.cancel id) = s ∨
    ∃ r, s.request? id = some r ∧ (r.stage = .requested ∨ r.stage = .allocated) ∧
      s.after (.cancel id) = s.vacate id .cancelled := by
  cases hr : s.request? id with
  | none => exact Or.inl (by simp [after, perform, cancel, hr])
  | some r =>
    cases hmove : r.stage.canBecome .cancelled with
    | true =>
      exact Or.inr ⟨r, rfl, Stage.canBecome_cancelled_iff.mp hmove, cancel_state hr hmove⟩
    | false =>
      -- A final stage is refused first, the stage of a parked vehicle by the lifecycle.
      left
      cases hfinal : r.stage.isFinal <;>
        simp [after, perform, cancel, hr, hfinal, finish, Request.moveTo_eq_error hmove]

lemma after_release (s : Facility) (id : RequestId) :
    s.after (.release id) = s ∨
    ∃ r, s.request? id = some r ∧ r.stage = .occupied ∧
      s.after (.release id) = s.vacate id .released := by
  cases hr : s.request? id with
  | none => exact Or.inl (by simp [after, perform, release, hr])
  | some r =>
    cases hmove : r.stage.canBecome .released with
    | true =>
      exact Or.inr ⟨r, rfl, Stage.canBecome_released_iff.mp hmove, release_state hr hmove⟩
    | false =>
      -- A request without a slot is refused first, one that is only allocated by the lifecycle.
      left
      cases hholds : r.stage.holdsSlot <;>
        simp [after, perform, release, hr, hholds, finish, Request.moveTo_eq_error hmove]

/-- A rollback takes back the newest allocation, over and over. -/
lemma after_rollback (s : Facility) (k : Nat) : s.after (.rollback k) = takeBack^[k] s :=
  rollback_state s k

lemma history_after_rollback (s : Facility) (k : Nat) :
    (s.after (.rollback k)).history = s.history.dropNewest k := by
  rw [after, perform, rollback_eq]

end Facility

/-! ### Reachable facilities -/

/-- The operation brings slots in that are all free, if it brings any. -/
def Operation.AddsFree : Operation → Prop
  | .addZone z => z.AllFree
  | _ => True

instance (op : Operation) : Decidable op.AddsFree :=
  match op with
  | .addZone z => inferInstanceAs (Decidable z.AllFree)
  | .submit .. | .occupy _ | .cancel _ | .release _ | .rollback _ => isTrue trivial

namespace Facility

/-- The facility has come about by operations, whether they succeeded or failed, out of zones
whose slots were all free. -/
def Reachable (s : Facility) : Prop :=
  ∃ zones ops, (∀ z ∈ zones, z.AllFree) ∧ (∀ op ∈ ops, op.AddsFree) ∧
    s = (ofZones zones).run ops

variable {s : Facility}

lemma requests_ofZones (zones : List Zone) : (ofZones zones).requests = [] := by
  have hfold (s : Facility) : (zones.foldl addZone s).requests = s.requests := by
    induction zones generalizing s with
    | nil => rfl
    | cons z zones ih =>
      rw [List.foldl_cons, ih]
      rfl
  exact hfold empty

lemma zones_ofZones (zones : List Zone) : (ofZones zones).registry.zones = zones := by
  have hfold (s : Facility) :
      (zones.foldl addZone s).registry.zones = s.registry.zones ++ zones := by
    induction zones generalizing s with
    | nil => exact (List.append_nil _).symm
    | cons z zones ih =>
      rw [List.foldl_cons, ih, addZone, Registry.addZone, List.append_assoc, List.singleton_append]
  exact hfold empty

lemma ofZones_eq_run (zones : List Zone) : ofZones zones = empty.run (zones.map .addZone) := by
  rw [ofZones, run, List.foldl_map]
  rfl

lemma Reachable.run (hs : s.Reachable) {ops : List Operation} (hops : ∀ op ∈ ops, op.AddsFree) :
    (s.run ops).Reachable := by
  obtain ⟨zones, ops₀, hzones, hops₀, rfl⟩ := hs
  refine ⟨zones, ops₀ ++ ops, hzones, ?_, (run_append _ _ _).symm⟩
  intro op hop
  rcases List.mem_append.mp hop with hop | hop
  · exact hops₀ op hop
  · exact hops op hop

lemma reachable_ofZones {zones : List Zone} (hzones : ∀ z ∈ zones, z.AllFree) :
    (ofZones zones).Reachable :=
  ⟨zones, [], hzones, by simp, rfl⟩

/-- What holds of a run's first facility and is kept by each operation holds at its end. -/
lemma run_induction {P : Facility → Prop}
    (hstep : ∀ s op, P s → op.AddsFree → P (s.after op)) {ops : List Operation}
    (hops : ∀ op ∈ ops, op.AddsFree) (hs : P s) : P (s.run ops) := by
  induction ops generalizing s with
  | nil => exact hs
  | cons op ops ih =>
    rw [run_cons]
    exact ih (fun o ho => hops o (by simp [ho])) (hstep s op hs (hops op (by simp)))

/-- What holds of the empty facility and is kept by each operation holds of every reachable
facility. -/
lemma Reachable.induction {P : Facility → Prop} (hs : s.Reachable) (hempty : P empty)
    (hstep : ∀ s op, P s → op.AddsFree → P (s.after op)) : P s := by
  obtain ⟨zones, ops, hzones, hops, rfl⟩ := hs
  refine run_induction hstep hops ?_
  rw [ofZones_eq_run]
  refine run_induction hstep ?_ hempty
  intro op hop
  obtain ⟨z, hz, rfl⟩ := List.mem_map.mp hop
  exact hzones z hz

/-! ### A small garage -/

/-- One zone with two free slots. -/
def twoSlots : Zone := (Zone.empty 1).addArea (Area.numbered 1 1 2)

/-- Three vehicles come: the first one parks, the second one leaves again, and the slot of the
third one is taken back. -/
def threeVisits : List Operation :=
  [.submit "A" 1 ⟨0, 0⟩, .submit "B" 1 ⟨0, 0⟩, .occupy 0, .cancel 1, .submit "C" 1 ⟨0, 0⟩,
    .rollback 1]

/-- Two vehicles come, and when the first one has left, a third one gets its slot. -/
def handOver : List Operation :=
  [.submit "A" 1 ⟨0, 0⟩, .submit "B" 1 ⟨0, 0⟩, .cancel 0, .submit "C" 1 ⟨0, 0⟩]

lemma allFree_twoSlots : ∀ z ∈ [twoSlots], z.AllFree := by decide

lemma addsFree_threeVisits : ∀ op ∈ threeVisits, op.AddsFree := by decide

lemma reachable_handOver : ((ofZones [twoSlots]).run handOver).Reachable :=
  ⟨[twoSlots], handOver, allFree_twoSlots, by decide, rfl⟩

end Facility

end Garage

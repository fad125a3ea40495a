/-
# A garage that grows

Zones may be registered at any time, behind those that there are.  Nothing else changes a registry
but for the flags of its slots, so that a registry without its flags is the list of the zones that
were registered, and a position names the same slot for good.

* `zones_plan_run`: what the plan of a registry is after a run.
* `handles_stay_valid` says the same about positions and about the number of slots.

For what goes on in the garage, it makes no difference whether a zone is there yet.  A record names
a slot that was there when it was written (`Facility.Anchored`), so that to give slots up is to
write in front of the new zone.  A submission finds a new zone behind all others, and passes it by
if it finds a slot without it; only a zone that brings in the id which is asked for would be
searched first.  So an operation does and says the same in the garage with the new zone, as
`perform_addZone` and `submit_addZone` have it, and may change places with the registration
(`registration_commutes`).
-/
import Mathlib.Algebra.GroupWithZero.Nat
import Garage.Proofs.Independence

namespace Garage

/-- Changing a member of a list leaves alone what stands behind the list. -/
lemma modify_append_left {α : Type} {l : List α} {i : Nat} (hi : i < l.length) (f : α → α)
    (l' : List α) : (l ++ l').modify i f = l.modify i f ++ l' := by
  apply List.ext_getElem?
  intro j
  by_cases hj : j < l.length
  · rw [List.getElem?_modify, List.getElem?_append_left hj,
      List.getElem?_append_left (by simpa using hj), List.getElem?_modify]
  · rw [List.getElem?_modify, List.getElem?_append_right (Nat.le_of_not_lt hj),
      List.getElem?_append_right (by simpa using hj), List.length_modify]
    simp [show i ≠ j by omega]

/-- The zone that the operation registers, if it registers one. -/
def Operation.zone? : Operation → Option Zone
  | .addZone z => some z
  | .submit .. | .occupy _ | .cancel _ | .release _ | .rollback _ => none

namespace Registry

variable {r r' : Registry} {h : Handle} {p : Slot} {z : Zone} {id : ZoneId}

/-! ### What stays when zones are added behind the others -/

lemma zone_lt_of_slot? (hp : r.slot? h = some p) : h.zone < r.zones.length := by
  obtain ⟨z, hz, -⟩ := slot?_eq_some_iff.mp hp
  exact (List.getElem?_eq_some_iff.mp hz).1

lemma slot?_of_prefix (hr : r.zones <+: r'.zones) (hp : r.slot? h = some p) :
    r'.slot? h = some p := by
  obtain ⟨new, hnew⟩ := hr
  have hlt := zone_lt_of_slot? hp
  rw [slot?_eq_some_iff] at hp ⊢
  rw [← hnew, List.getElem?_append_left hlt]
  exact hp

lemma slot?_addZone (hp : r.slot? h = some p) (z : Zone) : (r.addZone z).slot? h = some p :=
  slot?_of_prefix (List.prefix_append r.zones [z]) hp

lemma setAvailable_addZone (hp : r.slot? h = some p) (b : Bool) (z : Zone) :
    (r.addZone z).setAvailable h b = (r.setAvailable h b).addZone z := by
  unfold setAvailable addZone
  rw [modify_append_left (zone_lt_of_slot? hp)]

/-- A position that names a slot names one with the same number and the same zone in every registry
with more zones, whatever its flags are. -/
lemma slot?_of_plan_prefix (hr : r.plan.zones <+: r'.plan.zones) (hp : r.slot? h = some p) :
    ∃ p', r'.slot? h = some p' ∧ p'.id = p.id ∧ p'.zone = p.zone := by
  have hplan : r'.plan.slot? h = some (p.withAvailable true) := by
    apply slot?_of_prefix hr
    rw [slot?_plan, hp, Option.map_some]
  rw [slot?_plan, Option.map_eq_some_iff] at hplan
  obtain ⟨p', hp', heq⟩ := hplan
  simp only [Slot.withAvailable, Slot.mk.injEq, and_true] at heq
  exact ⟨p', hp', heq.1, heq.2⟩

lemma restoreAll_addZone {records : List Record}
    (hrecords : ∀ e ∈ records, ∃ p, r.slot? e.slot = some p) :
    (r.addZone z).restoreAll records = (r.restoreAll records).addZone z := by
  unfold restoreAll
  induction records generalizing r with
  | nil => rfl
  | cons e records ih =>
    obtain ⟨⟨p, hp⟩, hrest⟩ := List.forall_mem_cons.mp hrecords
    rw [List.foldl_cons, List.foldl_cons, Record.restoreSlot, setAvailable_addZone hp,
      Record.restoreSlot]
    apply ih
    intro e' he'
    obtain ⟨p', hp'⟩ := hrest e' he'
    rw [slot?_setAvailable, hp']
    split <;> exact ⟨_, rfl⟩

/-! ### The number of slots -/

lemma totalSlots_eq_sum (r : Registry) : r.totalSlots = (r.zones.map Zone.capacity).sum := by
  rw [totalSlots, slots, List.length_flatMap]
  rfl

/-- Flags of slots do not count. -/
lemma totalSlots_plan (r : Registry) : r.plan.totalSlots = r.totalSlots := by
  rw [totalSlots_eq_sum, totalSlots_eq_sum, plan, List.map_map]
  congr 1
  exact List.map_congr_left fun z _ => z.capacity_plan

/-! ### The choice of a slot -/

/-- A slot that is found outside a zone is found before the search comes to a new zone. -/
lemma chooseOutside_addZone (z : Zone) (hh : r.chooseOutside id = some h) :
    (r.addZone z).chooseOutside id = some h := by
  rw [chooseOutside] at hh
  rw [chooseOutside, addZone, List.zipIdx_append, List.filter_append, List.findSome?_append, hh,
    Option.some_or]

section FirstZone

-- The new zone is not the first one with the id that is asked for.
variable (hz : id ≠ z.id ∨ ∃ z' ∈ r.zones, z'.id = id)
include hz

lemma zoneIdx?_addZone : (r.addZone z).zoneIdx? id = r.zoneIdx? id := by
  rw [zoneIdx?, zoneIdx?, addZone, List.findIdx?_append]
  cases hi : r.zones.findIdx? (·.id == id) with
  | some i => rfl
  | none =>
    have hother : ¬ z.id = id := by
      rcases hz with hz | ⟨z', hz', hid⟩
      · exact Ne.symm hz
      · rw [List.findIdx?_eq_none_iff] at hi
        simpa [hid] using hi z' hz'
    simp [hother]

lemma firstAvailable_addZone : (r.addZone z).firstAvailable id = r.firstAvailable id := by
  rw [firstAvailable, firstAvailable, zoneIdx?_addZone hz]
  cases hi : r.zoneIdx? id with
  | none => rfl
  | some i =>
    have hlt : i < r.zones.length := (List.findIdx?_eq_some_iff_getElem.mp hi).1
    simp [firstAvailableAt, addZone, List.getElem?_append_left hlt]

/-- What is chosen without a new zone is chosen with it. -/
theorem choose_addZone (hc : r.choose id = some h) : (r.addZone z).choose id = some h := by
  rw [choose_eq_or, Option.or_eq_some_iff] at hc ⊢
  rw [firstAvailable_addZone hz]
  rcases hc with hhome | ⟨hnone, hout⟩
  · exact Or.inl hhome
  · exact Or.inr ⟨hnone, chooseOutside_addZone z hout⟩

lemma chooseEvents_addZone (hc : r.choose id = some h) :
    (r.addZone z).chooseEvents id = r.chooseEvents id := by
  obtain ⟨p, hp, -⟩ := mem_free.mp (mem_free_of_choose hc)
  have hzone : (r.addZone z).zones[h.zone]? = r.zones[h.zone]? :=
    List.getElem?_append_left (zone_lt_of_slot? hp)
  rw [choose_eq_or, Option.or_eq_some_iff] at hc
  rw [chooseEvents, chooseEvents, chooseAtHome_eq, chooseAtHome_eq, firstAvailable_addZone hz]
  rcases hc with hhome | ⟨hnone, hout⟩
  · rw [hhome]
  · rw [hnone, hout, chooseOutside_addZone z hout]
    dsimp only
    rw [hzone]

end FirstZone

/-- What is said when a zone is registered depends on the ids of the zones alone. -/
lemma addZoneEvents_congr (hr : r.plan = r'.plan) (z : Zone) :
    r.addZoneEvents z = r'.addZoneEvents z := by
  have hzone (r : Registry) : (r.zone? z.id).isSome = (r.plan.zone? z.id).isSome := by
    rw [zone?, zone?, plan, List.find?_map, Option.isSome_map]
    rfl
  rw [addZoneEvents, addZoneEvents, hzone r, hr, ← hzone r']

end Registry

/-- The outcome in another view of the state. -/
def Outcome.mapState {σ τ α : Type} (o : Outcome σ α) (f : σ → τ) : Outcome τ α :=
  ⟨o.answer, f o.state, o.events⟩

namespace Facility

variable {s : Facility} {op : Operation} {z : Zone} {zone : ZoneId} {h : Handle}

/-! ### The plan of the garage in the course of a run -/

/-- An operation adds the zone that it registers, and writes nothing but flags otherwise. -/
theorem zones_plan_after (s : Facility) (op : Operation) : (s.after op).registry.plan.zones =
    s.registry.plan.zones ++ op.zone?.toList.map Zone.plan := by
  cases op with
  | addZone z =>
    show (s.registry.zones ++ [z]).map Zone.plan = _
    rw [List.map_append]
    rfl
  | submit vehicle zone now =>
    rw [plan_submit]
    exact (List.append_nil _).symm
  | occupy | cancel | release =>
    rw [plan_after rfl]
    exact (List.append_nil _).symm
  | rollback k =>
    rw [plan_rollback]
    exact (List.append_nil _).symm

theorem zones_plan_run (s : Facility) (ops : List Operation) : (s.run ops).registry.plan.zones =
    s.registry.plan.zones ++ (ops.filterMap (·.zone?)).map Zone.plan := by
  induction ops generalizing s with
  | nil => exact (List.append_nil _).symm
  | cons op ops ih =>
    rw [run_cons, ih, zones_plan_after, List.append_assoc, ← List.map_append]
    cases hop : op.zone? <;> simp [hop]

/-- The zones that are given to a garage stay what and where they are. -/
structure Lasting (zones : List Zone) (ops : List Operation) : Prop where
  /-- Without the flags of its slots, the registry is the list of the zones that it was given. -/
  plan_eq : ((ofZones zones).run ops).registry.plan =
    Registry.plan ⟨zones ++ ops.filterMap (·.zone?)⟩
  /-- A position that names a slot names it at all later times. -/
  slot_kept : ∀ ops₁ ops₂, ops = ops₁ ++ ops₂ → ∀ h p,
    ((ofZones zones).run ops₁).registry.slot? h = some p →
      ∃ p', ((ofZones zones).run ops).registry.slot? h = some p' ∧ p'.id = p.id ∧ p'.zone = p.zone
  /-- There are as many slots as the zones have that were registered. -/
  totalSlots_eq : ((ofZones zones).run ops).registry.totalSlots =
    ((zones ++ ops.filterMap (·.zone?)).map Zone.capacity).sum

lemma plan_run_ofZones (zones : List Zone) (ops : List Operation) :
    ((ofZones zones).run ops).registry.plan =
      Registry.plan ⟨zones ++ ops.filterMap (·.zone?)⟩ := by
  have hzones := zones_plan_run (ofZones zones) ops
  have hplan : (ofZones zones).registry.plan.zones = zones.map Zone.plan :=
    congrArg (List.map Zone.plan) (zones_ofZones zones)
  rw [hplan, ← List.map_append] at hzones
  exact congrArg Registry.mk hzones

/-- **Positions name slots for good.**  Whatever zones are registered when, and whatever else is
done, the registry is the list of these zones in their order, up to the flags of the slots.  So a
position never comes to name another slot, and no slot is lost. -/
theorem handles_stay_valid (zones : List Zone) (ops : List Operation) : Lasting zones ops := by
  constructor
  case plan_eq => exact plan_run_ofZones zones ops
  case slot_kept =>
    intro ops₁ ops₂ hsplit h p hp
    apply Registry.slot?_of_plan_prefix _ hp
    rw [hsplit, run_append, zones_plan_run _ ops₂]
    exact List.prefix_append _ _
  case totalSlots_eq =>
    rw [← Registry.totalSlots_plan, plan_run_ofZones, Registry.totalSlots_plan,
      Registry.totalSlots_eq_sum]

/-! ### Operations in the garage with one more zone -/

/-- Every record names a slot that is there.  This holds whatever the zones are like; of a record in
a balanced facility there is more to say, but books do not balance where zones come with slots that
are taken. -/
def Anchored (s : Facility) : Prop :=
  ∀ e ∈ s.history.records, ∃ p, s.registry.slot? e.slot = some p

/-- A new record is about a slot that was free. -/
lemma mem_records_after {e : Record} (he : e ∈ (s.after op).history.records) :
    e ∈ s.history.records ∨ e.slot ∈ s.registry.free := by
  cases hop : op.subject? with
  | some id =>
    left
    rcases after_of_subject? hop s with hafter | hafter | ⟨t, hafter⟩ <;> rw [hafter] at he
    · exact he
    · exact he
    · exact List.eraseP_sublist.subset he
  | none =>
    cases op with
    | addZone z => exact Or.inl he
    | submit vehicle zone now =>
      rcases after_submit s vehicle zone now with ⟨-, hafter⟩ | ⟨h, hc, hafter⟩ <;>
        rw [hafter] at he
      · rw [meet_history] at he
        exact Or.inl he
      · rw [allocate, meet_history, History.push, List.mem_cons] at he
        rcases he with rfl | he
        · exact Or.inr (Registry.mem_free_of_choose hc)
        · exact Or.inl he
    | rollback k =>
      rw [history_after_rollback] at he
      exact Or.inl (List.mem_of_mem_drop he)
    | occupy | cancel | release => cases hop

lemma occupy_addZone (s : Facility) (id : RequestId) (z : Zone) :
    (s.addZone z).occupy id = (s.occupy id).mapState (·.addZone z) := by
  have hr : (s.addZone z).request? id = s.request? id := rfl
  rw [occupy, occupy, hr]
  cases s.request? id with
  | none => rfl
  | some r =>
    dsimp only
    cases r.moveTo .occupied <;> rfl

lemma meet_addZone (s : Facility) (vehicle : String) (zone : ZoneId) (z : Zone) :
    (s.addZone z).meet vehicle zone = (s.meet vehicle zone).addZone z := by
  have hv : (s.addZone z).vehicle? vehicle = s.vehicle? vehicle := rfl
  rw [meet, meet, hv]
  split <;> rfl

namespace Anchored

/-- Slots do not go away, and what a new record names is there. -/
lemma after (hs : s.Anchored) (op : Operation) : (s.after op).Anchored := by
  intro e he
  have hslot : ∃ p, s.registry.slot? e.slot = some p := by
    rcases mem_records_after he with he | hfree
    · exact hs e he
    · obtain ⟨p, hp, -⟩ := Registry.mem_free.mp hfree
      exact ⟨p, hp⟩
  obtain ⟨p, hp⟩ := hslot
  have hplan : s.registry.plan.zones <+: (s.after op).registry.plan.zones := by
    rw [zones_plan_after]
    exact List.prefix_append _ _
  obtain ⟨p', hp', -⟩ := Registry.slot?_of_plan_prefix hplan hp
  exact ⟨p', hp'⟩

lemma run (hs : s.Anchored) (ops : List Operation) : (s.run ops).Anchored := by
  induction ops generalizing s with
  | nil => exact hs
  | cons op ops ih => exact ih (hs.after op)

lemma undo_addZone (hs : s.Anchored) (id : RequestId) (z : Zone) :
    s.history.undo id (s.registry.addZone z) =
      (s.history.undo id s.registry).mapState fun (history, r) => (history, r.addZone z) := by
  unfold History.undo
  cases hfind : s.history.find? id with
  | none => rfl
  | some e =>
    obtain ⟨p, hp⟩ := hs e (List.mem_of_find?_eq_some hfind)
    simp [Outcome.mapState, Record.restoreSlot, Record.slotEvents, hp, Registry.slot?_addZone hp,
      Registry.setAvailable_addZone hp]

lemma finish_addZone (hs : s.Anchored) (id : RequestId) (r : Request) (target : Stage)
    (done : Event) (z : Zone) :
    (s.addZone z).finish id r target done = (s.finish id r target done).mapState (·.addZone z) := by
  unfold finish
  cases r.moveTo target with
  | error e => rfl
  | ok r' =>
    have hundo : (s.addZone z).history.undo id (s.addZone z).registry = _ := hs.undo_addZone id z
    dsimp only
    rw [hundo]
    rfl

lemma cancel_addZone (hs : s.Anchored) (id : RequestId) (z : Zone) :
    (s.addZone z).cancel id = (s.cancel id).mapState (·.addZone z) := by
  have hr : (s.addZone z).request? id = s.request? id := rfl
  rw [cancel, cancel, hr]
  cases s.request? id with
  | none => rfl
  | some r =>
    dsimp only
    split
    · rfl
    · exact hs.finish_addZone id r .cancelled _ z

lemma release_addZone (hs : s.Anchored) (id : RequestId) (z : Zone) :
    (s.addZone z).release id = (s.release id).mapState (·.addZone z) := by
  have hr : (s.addZone z).request? id = s.request? id := rfl
  rw [release, release, hr]
  cases s.request? id with
  | none => rfl
  | some r =>
    dsimp only
    split
    · exact hs.finish_addZone id r .released _ z
    · rfl

lemma rollback_addZone (hs : s.Anchored) (k : Nat) (z : Zone) :
    (s.addZone z).rollback k = (s.rollback k).mapState (·.addZone z) := by
  -- The records are about slots that were there before, so that none of them warns of another one.
  have htake : ∀ e ∈ s.history.takeNewest k, ∃ p, s.registry.slot? e.slot = some p :=
    fun e he => hs e (List.mem_of_mem_take he)
  have hslot : ∀ e ∈ s.history.takeNewest k,
      e.slotEvents (s.registry.addZone z) = e.slotEvents s.registry := by
    intro e he
    obtain ⟨p, hp⟩ := htake e he
    rw [Record.slotEvents, Record.slotEvents, hp, Registry.slot?_addZone hp]
  have hevents : s.history.rollbackEvents k (s.registry.addZone z) s.requests =
      s.history.rollbackEvents k s.registry s.requests := by
    unfold History.rollbackEvents
    congr 1
    exact List.flatMap_congr fun e he => by rw [hslot e he]
  simp only [rollback_eq, Outcome.mapState, addZone]
  rw [Registry.restoreAll_addZone htake, hevents]

/-- Operations on requests and rollbacks do and say the same in the garage with one more zone. -/
theorem perform_addZone (hs : s.Anchored) (hop : op.subject?.isSome ∨ ∃ k, op = .rollback k)
    (z : Zone) : (s.addZone z).perform op = (s.perform op).mapState (·.addZone z) := by
  cases op with
  | occupy id =>
    rw [perform, s.occupy_addZone]
    rfl
  | cancel id =>
    rw [perform, hs.cancel_addZone]
    rfl
  | release id =>
    rw [perform, hs.release_addZone]
    rfl
  | rollback k =>
    rw [perform, hs.rollback_addZone]
    rfl
  | addZone | submit => rcases hop with hop | ⟨k, hop⟩ <;> cases hop

end Anchored

/-- A submission that finds a slot does and says the same in the garage with one more zone, unless
that zone is the first one with the id that is asked for. -/
theorem submit_addZone (hz : zone ≠ z.id ∨ ∃ z' ∈ s.registry.zones, z'.id = zone)
    (hc : s.registry.choose zone = some h) (vehicle : String) (now : Instant) :
    (s.addZone z).submit vehicle zone now =
      (s.submit vehicle zone now).mapState (·.addZone z) := by
  obtain ⟨p, hp, -⟩ := Registry.mem_free.mp (Registry.mem_free_of_choose hc)
  have hc' : (s.addZone z).registry.choose zone = some h := Registry.choose_addZone hz hc
  have hallocate (r : Request) :
      ((s.meet vehicle zone).addZone z).allocate r h true .requested =
        ((s.meet vehicle zone).allocate r h true .requested).addZone z := by
    unfold allocate addZone
    rw [meet_registry, Registry.setAvailable_addZone hp]
  rw [submit_of_choose hc', submit_of_choose hc, meet_addZone, hallocate, addZone_registry,
    Registry.chooseEvents_addZone hz hc]
  rfl

/-! ### Registering a zone early or late -/

/-- Two operations come to the same in either order, and each of them answers and reports what it
does without the other. -/
structure Commutes (s : Facility) (f g : Operation) : Prop where
  state_eq : (s.after f).after g = (s.after g).after f
  answer_left : ((s.after g).perform f).answer = (s.perform f).answer
  answer_right : ((s.after f).perform g).answer = (s.perform g).answer
  events_left : ((s.after g).perform f).events = (s.perform f).events
  events_right : ((s.after f).perform g).events = (s.perform g).events

/-- What does the same in the garage with one more zone may change places with its registration, if
it registers no zone itself. -/
lemma commutes_of_perform_addZone (hop : op.zone? = none)
    (hperform : (s.addZone z).perform op = (s.perform op).mapState (·.addZone z)) :
    s.Commutes (.addZone z) op where
  state_eq := by
    show ((s.addZone z).perform op).state = (s.perform op).state.addZone z
    rw [hperform]
    rfl
  answer_left := rfl
  answer_right := by
    show ((s.addZone z).perform op).answer = (s.perform op).answer
    rw [hperform]
    rfl
  events_left := by
    have hplan : (s.after op).registry.plan = s.registry.plan := by
      have hzones := zones_plan_after s op
      rw [hop, Option.toList_none, List.map_nil, List.append_nil] at hzones
      exact congrArg Registry.mk hzones
    exact Registry.addZoneEvents_congr hplan z
  events_right := by
    show ((s.addZone z).perform op).events = (s.perform op).events
    rw [hperform]
    rfl

/-- The facility without the times of its requests. -/
def untimed (s : Facility) : Facility :=
  { s with requests := s.requests.map fun r => { r with time := ⟨0, 0⟩ } }

/-- The time of a submission is found in the time of its request and nowhere else. -/
lemma untimed_submit (s : Facility) (vehicle : String) (zone : ZoneId) (now now' : Instant) :
    (s.after (.submit vehicle zone now)).untimed =
      (s.after (.submit vehicle zone now')).untimed := by
  cases hc : s.registry.choose zone with
  | none => simp [after, perform, submit, hc]
  | some h =>
    rw [after, after, perform, perform, submit_of_choose hc, submit_of_choose hc]
    simp [untimed, allocate]

lemma choose_of_answer_eq_ok {vehicle : String} {now : Instant} {id : RequestId}
    (hok : (s.submit vehicle zone now).answer = .ok id) :
    s.requests.length = id ∧ ∃ h, s.registry.choose zone = some h := by
  rw [answer_submit] at hok
  split at hok
  next hc => exact ⟨Except.ok.inj hok, Option.isSome_iff_exists.mp hc⟩
  next => cases hok

/-- A zone that makes no difference to work which does not need it. -/
structure Indifferent (s : Facility) (z : Zone) : Prop where
  /-- To park, to cancel and to release may change places with its registration. -/
  of_subject? : ∀ op id, op.subject? = some id → s.Commutes (.addZone z) op
  rollback : ∀ k, s.Commutes (.addZone z) (.rollback k)
  /-- So may a submission that succeeds, unless the zone is the first one with the id that is asked
  for.  The slot is the same, and if the times differ, then this shows in the time of the request
  and nowhere else. -/
  submit : ∀ vehicle zone now id, (s.submit vehicle zone now).answer = .ok id →
    (zone ≠ z.id ∨ ∃ z' ∈ s.registry.zones, z'.id = zone) →
    s.Commutes (.addZone z) (.submit vehicle zone now) ∧
    (∃ h, s.registry.choose zone = some h ∧ (s.addZone z).registry.choose zone = some h) ∧
    ∀ later, ((s.addZone z).submit vehicle zone later).answer = .ok id ∧
      ((s.after (.addZone z)).after (.submit vehicle zone later)).untimed =
        ((s.after (.submit vehicle zone now)).after (.addZone z)).untimed

namespace Anchored

lemma commutes_of_subject? (hs : s.Anchored) {id : RequestId} (hop : op.subject? = some id)
    (z : Zone) : s.Commutes (.addZone z) op := by
  have hzone : op.zone? = none := by
    cases op with
    | addZone => cases hop
    | submit | occupy | cancel | release | rollback => rfl
  exact commutes_of_perform_addZone hzone
    (hs.perform_addZone (Or.inl (Option.isSome_of_eq_some hop)) z)

lemma indifferent (hs : s.Anchored) (z : Zone) : s.Indifferent z where
  of_subject? op id hop := hs.commutes_of_subject? hop z
  rollback k := commutes_of_perform_addZone rfl (hs.perform_addZone (Or.inr ⟨k, rfl⟩) z)
  submit vehicle zone now id hok hz := by
    obtain ⟨hid, h, hc⟩ := choose_of_answer_eq_ok hok
    have hc' : (s.addZone z).registry.choose zone = some h := Registry.choose_addZone hz hc
    have hcommutes : s.Commutes (.addZone z) (.submit vehicle zone now) := by
      apply commutes_of_perform_addZone rfl
      rw [perform, submit_addZone hz hc]
      rfl
    refine ⟨hcommutes, ⟨h, hc, hc'⟩, fun later => ⟨?_, ?_⟩⟩
    · rw [answer_submit, hc', ← hid]
      rfl
    · rw [untimed_submit (s.after (.addZone z)) vehicle zone later now, hcommutes.state_eq]

end Anchored

lemma anchored_ofZones (zones : List Zone) : (ofZones zones).Anchored := by
  have hempty : empty.Anchored := fun e he => by cases he
  rw [ofZones_eq_run]
  exact hempty.run _

/-- **A zone may be registered early or late.**  Whatever has happened before in zones of any kind,
and whichever zone is registered, operations on requests, rollbacks and submissions that do not wait
for this zone come to the same before and after its registration, and say the same. -/
theorem registration_commutes (zones : List Zone) (ops : List Operation) (z : Zone) :
    ((ofZones zones).run ops).Indifferent z :=
  ((anchored_ofZones zones).run ops).indifferent z

/-- After three visits one slot is free.  A vehicle that asks for its zone gets it, and so does one
that asks for a zone that there is not, though more slots become free under the first id. -/
theorem registration_commutes_threeVisits :
    let s := (ofZones [twoSlots]).run threeVisits
    s.Indifferent twoSlots ∧ s.Commutes (.addZone twoSlots) (.rollback 1) ∧
      s.Commutes (.addZone twoSlots) (.release 0) ∧
      s.Commutes (.addZone twoSlots) (.submit "D" 1 ⟨1, 0⟩) ∧
      s.Commutes (.addZone twoSlots) (.submit "E" 9 ⟨1, 0⟩) ∧
      s.registry.choose 9 = some ⟨0, 0, 1⟩ := by
  intro s
  have h : s.Indifferent twoSlots := registration_commutes [twoSlots] threeVisits twoSlots
  have hhome : (1 : ZoneId) ≠ twoSlots.id ∨ ∃ z' ∈ s.registry.zones, z'.id = 1 := by decide
  have helse : (9 : ZoneId) ≠ twoSlots.id ∨ ∃ z' ∈ s.registry.zones, z'.id = 9 := by decide
  exact ⟨h, h.rollback 1, h.of_subject? (.release 0) 0 rfl,
    (h.submit "D" 1 ⟨1, 0⟩ 3 (by decide) hhome).1, (h.submit "E" 9 ⟨1, 0⟩ 3 (by decide) helse).1,
    by decide⟩

/-- A vehicle that asks for a zone before it is registered gets a slot elsewhere. -/
example :
    let s := (ofZones [twoSlots]).run threeVisits
    let z := (Zone.empty 2).addArea (Area.numbered 1 2 1)
    s.registry.choose 2 = some ⟨0, 0, 1⟩ ∧ (s.addZone z).registry.choose 2 = some ⟨1, 0, 0⟩ := by
  decide

end Facility
end Garage

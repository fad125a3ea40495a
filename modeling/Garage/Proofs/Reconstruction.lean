/-
# What the requests tell

The flags of the slots and the history say nothing that the requests do not say.  So a facility
whose books are balanced can be put together again from the plan of its garage, its vehicles and
its requests.

* `Registry.plan` is the registry with every slot free: all that no visit ever changes.
* `Registry.eq_of_plan_eq`: the plan and the positions that are taken make up the registry, as
  for each slot the plan and its flag do (`Registry.slot?_eq_of_plan_eq`).
* `Balanced.eq_of_requests_eq`: facilities with balanced books are equal when their plans, their
  vehicles and their requests are.

Two runs are compared by comparing what becomes of the requests; where they meet, the rest of the
state follows.
-/
import Garage.Proofs.Ledger

namespace Garage

/-- Lists with the same image are equal when at every place the image tells the members apart. -/
lemma eq_of_map_eq_map {α β : Type} {f : α → β} {l l' : List α} (hmap : l.map f = l'.map f)
    (hinj : ∀ (i : Nat) (a a' : α), l[i]? = some a → l'[i]? = some a' → f a = f a' → a = a') :
    l = l' := by
  apply List.ext_getElem?
  intro i
  have himage : l[i]?.map f = l'[i]?.map f := by
    rw [← List.getElem?_map, ← List.getElem?_map, hmap]
  cases ha : l[i]? with
  | none =>
    rw [ha, Option.map_none, eq_comm, Option.map_eq_none_iff] at himage
    rw [himage]
  | some a =>
    rw [ha, Option.map_some, eq_comm, Option.map_eq_some_iff] at himage
    obtain ⟨a', ha', hf⟩ := himage
    rw [ha', hinj i a a' ha ha' hf.symm]

/-! ### The plan of a garage -/

/-- The area with every slot free. -/
def Area.plan (a : Area) : Area := { a with slots := a.slots.map (·.withAvailable true) }

/-- The zone with every slot free. -/
def Zone.plan (z : Zone) : Zone := { z with areas := z.areas.map Area.plan }

lemma Zone.capacity_plan (z : Zone) : z.plan.capacity = z.capacity := by
  simp [capacity, slots, plan, Area.plan, List.length_flatMap, Function.comp_def]

namespace Registry

/-- The registry with every slot free: which zones, areas and slots there are, and in which
order. -/
def plan (r : Registry) : Registry := ⟨r.zones.map Zone.plan⟩

variable {r r' : Registry}

@[simp] lemma plan_setAvailable (r : Registry) (h : Handle) (b : Bool) :
    (r.setAvailable h b).plan = r.plan := by
  unfold plan setAvailable
  congr 1
  apply map_modify_eq_map
  intro z
  unfold Zone.plan
  congr 1
  apply map_modify_eq_map
  intro a
  unfold Area.plan
  congr 1
  apply map_modify_eq_map
  intro p
  rfl

lemma slot?_plan (r : Registry) (h : Handle) :
    r.plan.slot? h = (r.slot? h).map (·.withAvailable true) := by
  simp only [slot?, plan, List.getElem?_map]
  cases hz : r.zones[h.zone]? with
  | none => rfl
  | some z =>
    cases ha : z.areas[h.area]? with
    | none => simp [Zone.plan, ha]
    | some a => simp [Zone.plan, Area.plan, ha]

/-- A slot that is not taken is as the plan has it. -/
lemma slot?_of_not_mem_taken {h : Handle} (hh : h ∉ r.taken) : r.slot? h = r.plan.slot? h := by
  rw [slot?_plan]
  cases hp : r.slot? h with
  | none => rfl
  | some p =>
    obtain ⟨id, zone, available⟩ := p
    have havailable : available = true := by simpa [hp] using hh
    rw [havailable]
    rfl

/-- A slot is told by its place in the plan and by whether it is taken. -/
lemma slot?_eq_of_plan_eq {h : Handle} (hplan : r.plan = r'.plan)
    (htaken : h ∈ r.taken ↔ h ∈ r'.taken) : r.slot? h = r'.slot? h := by
  by_cases hh : h ∈ r.taken
  · obtain ⟨⟨id, zone, available⟩, hp, rfl⟩ := mem_taken.mp hh
    obtain ⟨⟨id', zone', available'⟩, hp', rfl⟩ := mem_taken.mp (htaken.mp hh)
    have himage := slot?_plan r h
    rw [hplan, slot?_plan, hp, hp'] at himage
    simp only [Option.map_some, Slot.withAvailable, Option.some.injEq, Slot.mk.injEq,
      and_true] at himage
    obtain ⟨rfl, rfl⟩ := himage
    rw [hp, hp']
  · rw [slot?_of_not_mem_taken hh, slot?_of_not_mem_taken (fun hh' => hh (htaken.mpr hh')), hplan]

/-- Nothing but the flags of the slots is left out of the plan. -/
theorem eq_of_plan_eq (hplan : r.plan = r'.plan) (htaken : ∀ h, h ∈ r.taken ↔ h ∈ r'.taken) :
    r = r' := by
  suffices hzones : r.zones = r'.zones by
    obtain ⟨zones⟩ := r
    obtain ⟨zones'⟩ := r'
    exact congrArg Registry.mk hzones
  refine eq_of_map_eq_map (congrArg Registry.zones hplan) fun i z z' hz hz' hzplan => ?_
  obtain ⟨id, areas, adjacent⟩ := z
  obtain ⟨id', areas', adjacent'⟩ := z'
  simp only [Zone.plan, Zone.mk.injEq] at hzplan
  obtain ⟨rfl, hareas, rfl⟩ := hzplan
  congr 1
  refine eq_of_map_eq_map hareas fun j a a' ha ha' haplan => ?_
  obtain ⟨id', slots⟩ := a
  obtain ⟨id'', slots'⟩ := a'
  simp only [Area.plan, Area.mk.injEq] at haplan
  obtain ⟨rfl, hslots⟩ := haplan
  congr 1
  refine eq_of_map_eq_map hslots fun k p p' hp hp' _ => ?_
  have hslot : r.slot? ⟨i, j, k⟩ = some p := by simp [slot?, hz, ha, hp]
  have hslot' : r'.slot? ⟨i, j, k⟩ = some p' := by simp [slot?, hz', ha', hp']
  rw [slot?_eq_of_plan_eq hplan (htaken _), hslot'] at hslot
  exact (Option.some.inj hslot).symm

end Registry

namespace Facility

variable {s s' : Facility}

/-! ### What no visit changes -/

@[simp] lemma plan_vacate (s : Facility) (id : RequestId) (t : Stage) :
    (s.vacate id t).registry.plan = s.registry.plan := by
  unfold vacate
  cases s.history.find? id with
  | none => rfl
  | some e => exact Registry.plan_setAvailable _ _ _

lemma plan_submit (s : Facility) (vehicle : String) (zone : ZoneId) (now : Instant) :
    (s.after (.submit vehicle zone now)).registry.plan = s.registry.plan := by
  rcases after_submit s vehicle zone now with ⟨-, hafter⟩ | ⟨h, -, hafter⟩ <;> rw [hafter]
  · rw [meet_registry]
  · rw [allocate, Registry.plan_setAvailable, meet_registry]

lemma plan_takeBack (s : Facility) : s.takeBack.registry.plan = s.registry.plan := by
  unfold takeBack
  cases s.history.newest? with
  | none => rfl
  | some e => exact plan_vacate s e.request e.stage

lemma plan_rollback (s : Facility) (k : Nat) :
    (s.after (.rollback k)).registry.plan = s.registry.plan := by
  rw [after_rollback]
  exact Function.Iterate.rec (fun s' : Facility => s'.registry.plan = s.registry.plan) rfl
    (fun s' hs' => (plan_takeBack s').trans hs') k

lemma vehicles_rollback (s : Facility) (k : Nat) :
    (s.after (.rollback k)).vehicles = s.vehicles := rfl

/-! ### Putting a facility together again -/

namespace Balanced

/-- The slots that requests hold are what there is to know about a registry besides its plan. -/
lemma registry_eq (hb : s.Balanced) (hb' : s'.Balanced)
    (hplan : s.registry.plan = s'.registry.plan) (hheld : s.held = s'.held) :
    s.registry = s'.registry := by
  refine Registry.eq_of_plan_eq hplan fun h => ?_
  rw [hb.mem_taken, hb'.mem_taken, hheld]

/-- The records of what requests hold are what there is to know about a history. -/
lemma history_eq (hb : s.Balanced) (hb' : s'.Balanced) (hout : s.outstanding = s'.outstanding) :
    s.history = s'.history := by
  have hrecords : s.history.records = s'.history.records := by
    rw [hb.records_eq, hb'.records_eq, hout]
  exact congrArg History.mk hrecords

/-- With balanced books, the plan, the vehicles and the requests make up the facility. -/
theorem eq_of_requests_eq (hb : s.Balanced) (hb' : s'.Balanced)
    (hplan : s.registry.plan = s'.registry.plan) (hvehicles : s.vehicles = s'.vehicles)
    (hrequests : s.requests = s'.requests) : s = s' := by
  have hregistry := hb.registry_eq hb' hplan (by rw [held, held, hrequests])
  have hhistory := hb.history_eq hb' (by rw [outstanding, outstanding, hrequests])
  cases s
  cases s'
  cases hregistry
  cases hvehicles
  cases hrequests
  cases hhistory
  rfl

end Balanced

end Facility

end Garage

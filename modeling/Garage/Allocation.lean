/-
# Choosing a slot

A vehicle gets the first free slot of the zone it asks for.  If there is none, it gets the first
free slot of the garage outside all zones with that id.  "First" is by place of the zone, then
of the area, then of the slot.

The choice goes through the zones by itself.  What it finds in the zone that is asked for is what
the registry finds there, too (`chooseAtHome_eq`).
-/
import Garage.Event
import Garage.Registry

namespace Garage

/-- The first free slot of a zone that stands at place `i`. -/
def Zone.firstHandle (z : Zone) (i : Nat) : Option Handle :=
  z.firstAvailable.map fun (area, slot) => ⟨i, area, slot⟩

namespace Registry

/-- What is chosen in the first zone whose id is `id`. -/
def chooseAtHome (r : Registry) (id : ZoneId) : Option Handle := do
  let i ← r.zones.findIdx? (·.id == id)
  let z ← r.zones[i]?
  z.firstHandle i

/-- What is chosen in the zones whose id is not `id`. -/
def chooseOutside (r : Registry) (id : ZoneId) : Option Handle :=
  (r.zones.zipIdx.filter (·.1.id != id)).findSome? fun (z, i) => z.firstHandle i

/-- The slot for a vehicle that asks for the zone `id`. -/
def choose (r : Registry) (id : ZoneId) : Option Handle :=
  if r.zones.isEmpty then none
  else
    match r.chooseAtHome id with
    | some h => some h
    | none => r.chooseOutside id

/-- A slot outside the zone that was asked for is worth a note. -/
def chooseEvents (r : Registry) (id : ZoneId) : List Event :=
  match r.chooseAtHome id, r.chooseOutside id with
  | none, some h => (r.zones[h.zone]?).toList.map fun z => .fallback id z.id
  | _, _ => []

/-- What is reported when a zone is registered. -/
def addZoneEvents (r : Registry) (z : Zone) : List Event :=
  (if (r.zone? z.id).isSome then [.zoneRepeated z.id] else [])
    ++ [.zoneRegistered z.id z.areas.length z.capacity]

theorem firstAvailableAt_eq_bind (r : Registry) (i : Nat) :
    r.firstAvailableAt i = r.zones[i]?.bind (·.firstHandle i) := by
  simp only [firstAvailableAt, Zone.firstHandle, Option.map_eq_bind]
  rfl

/-- At home, the choice agrees with the registry about what comes first. -/
theorem chooseAtHome_eq (r : Registry) (id : ZoneId) : r.chooseAtHome id = r.firstAvailable id := by
  simp only [chooseAtHome, firstAvailable, zoneIdx?, firstAvailableAt_eq_bind]
  rfl

/-- Without zones there is nothing to be found, either. -/
theorem choose_eq_or (r : Registry) (id : ZoneId) :
    r.choose id = (r.firstAvailable id).or (r.chooseOutside id) := by
  rw [choose, chooseAtHome_eq]
  split
  case isTrue hempty =>
    rw [List.isEmpty_iff] at hempty
    simp [firstAvailable, zoneIdx?, chooseOutside, hempty]
  case isFalse => cases r.firstAvailable id <;> rfl

end Registry

end Garage

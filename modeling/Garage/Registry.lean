/-
# The registry

The registry is the list of all zones in the order in which they were registered.  An id may
be registered twice; looking an id up then finds the first zone only, while positions reach
every slot.
-/
import Garage.Zone

namespace Garage

/-- The zones of a garage, in the order in which they were registered. -/
structure Registry where
  zones : List Zone
deriving DecidableEq, Repr

namespace Registry

def empty : Registry := ⟨[]⟩

/-- Registers a zone behind the others. -/
def addZone (r : Registry) (z : Zone) : Registry :=
  ⟨r.zones ++ [z]⟩

/-- The first zone with this id. -/
def zone? (r : Registry) (id : ZoneId) : Option Zone :=
  r.zones.find? (·.id == id)

/-- The place of the first zone with this id. -/
def zoneIdx? (r : Registry) (id : ZoneId) : Option Nat :=
  r.zones.findIdx? (·.id == id)

/-- The slot at a position. -/
def slot? (r : Registry) (h : Handle) : Option Slot := do
  let z ← r.zones[h.zone]?
  let a ← z.areas[h.area]?
  a.slots[h.slot]?

/-- The first free slot of the zone at place `i`. -/
def firstAvailableAt (r : Registry) (i : Nat) : Option Handle := do
  let z ← r.zones[i]?
  let (area, slot) ← z.firstAvailable
  return ⟨i, area, slot⟩

/-- The first free slot of the first zone with this id. -/
def firstAvailable (r : Registry) (id : ZoneId) : Option Handle := do
  r.firstAvailableAt (← r.zoneIdx? id)

/-- Overwrites the availability of the slot at a position.  A position that names no slot
changes nothing. -/
def setAvailable (r : Registry) (h : Handle) (available : Bool) : Registry :=
  ⟨r.zones.modify h.zone fun z =>
    { z with areas := z.areas.modify h.area fun a =>
      { a with slots := a.slots.modify h.slot (·.withAvailable available) } }⟩

/-- All slots, zone by zone. -/
def slots (r : Registry) : List Slot :=
  r.zones.flatMap (·.slots)

def totalSlots (r : Registry) : Nat := r.slots.length

def availableSlots (r : Registry) : Nat := r.slots.countP (·.available)

/-- Setting one slot leaves all others as they are. -/
theorem slot?_setAvailable (r : Registry) (h k : Handle) (b : Bool) :
    (r.setAvailable h b).slot? k =
      if k = h then (r.slot? k).map (·.withAvailable b) else r.slot? k := by
  obtain ⟨hz, ha, hs⟩ := h
  obtain ⟨kz, ka, ks⟩ := k
  simp only [setAvailable, slot?, List.getElem?_modify]
  by_cases hzk : hz = kz
  · subst hzk
    cases r.zones[hz]? with
    | none => simp
    | some z =>
      by_cases hak : ha = ka
      · subst hak
        cases h2 : z.areas[ha]? with
        | none => simp [h2]
        | some a =>
          by_cases hsk : hs = ks
          · subst hsk
            simp [h2]
          · simp [h2, hsk, Ne.symm hsk]
      · simp [hak, Ne.symm hak]
  · simp [hzk, Ne.symm hzk]

end Registry

end Garage

/-
# Zones, areas and slots

A garage is divided into zones, a zone into areas, and an area holds a row of slots.  A slot
is found by its *position* (which zone, which area, which slot, counted from zero), never by
its number: numbers may repeat, positions cannot.  Nothing is ever taken out of a zone or put
in between, so a position names the same slot for good.

A zone also lists the zones next to it, at most `maxAdjacent` of them, each once and never
itself.
-/

namespace Garage

abbrev ZoneId := UInt32
abbrev AreaId := UInt32
abbrev SlotId := UInt32

/-- A single slot, the thing that is handed out. -/
structure Slot where
  /-- The number painted on the slot. -/
  id : SlotId
  /-- The zone the slot says it belongs to. -/
  zone : ZoneId
  /-- Whether the slot is free. -/
  available : Bool
deriving DecidableEq, Repr

/-- A row of slots inside a zone. -/
structure Area where
  id : AreaId
  /-- The slots in the order in which they are searched. -/
  slots : List Slot
deriving DecidableEq, Repr

/-- A part of the garage with an id of its own. -/
structure Zone where
  id : ZoneId
  /-- The areas in the order in which they are searched. -/
  areas : List Area
  /-- The neighbouring zones, in the order in which they were declared. -/
  adjacent : List ZoneId
deriving DecidableEq, Repr

/-- The position of a slot: its zone's place in the registry, its area's place in the zone and
its own place in the area. -/
structure Handle where
  zone : Nat
  area : Nat
  slot : Nat
deriving DecidableEq, Repr

/-- Why a zone was not accepted as a neighbour. -/
inductive AdjacencyError
  /-- The zone named itself. -/
  | itself (zone : ZoneId)
  /-- The zone has all the neighbours it may have. -/
  | full (zone : ZoneId)
deriving DecidableEq, Repr

def AdjacencyError.message : AdjacencyError → String
  | .itself zone => s!"Zone {zone} cannot be adjacent to itself"
  | .full zone => s!"Zone {zone} already has the maximum number of adjacent zones"

/-- The form in which a position appears in messages. -/
def Handle.text (h : Handle) : String :=
  s!"SlotHandle \x7b zone: {h.zone}, area: {h.area}, slot: {h.slot} \x7d"

namespace Slot

/-- A free slot. -/
def free (id : SlotId) (zone : ZoneId) : Slot := ⟨id, zone, true⟩

/-- The slot with its availability overwritten. -/
def withAvailable (s : Slot) (available : Bool) : Slot := { s with available }

@[simp] theorem withAvailable_available (s : Slot) (b : Bool) :
    (s.withAvailable b).available = b := rfl

end Slot

namespace Area

/-- `count` free slots, numbered from one. -/
def numbered (id : AreaId) (zone : ZoneId) (count : UInt32) : Area :=
  ⟨id, (List.range count.toNat).map fun i => Slot.free (UInt32.ofNat (i + 1)) zone⟩

/-- The place of the first free slot. -/
def firstAvailable (a : Area) : Option Nat :=
  a.slots.findIdx? (·.available)

@[simp] theorem numbered_length (id : AreaId) (zone : ZoneId) (count : UInt32) :
    (numbered id zone count).slots.length = count.toNat := by
  simp [numbered]

end Area

namespace Zone

/-- How many neighbours a zone may declare. -/
def maxAdjacent : Nat := 10

/-- A zone without areas or neighbours. -/
def empty (id : ZoneId) : Zone := ⟨id, [], []⟩

/-- Puts an area behind the others. -/
def addArea (z : Zone) (a : Area) : Zone :=
  { z with areas := z.areas ++ [a] }

/-- Declares a neighbour.  Declaring one again is no error and changes nothing, even when the
zone has all the neighbours it may have. -/
def addAdjacent (z : Zone) (other : ZoneId) : Except AdjacencyError Zone :=
  if other = z.id then .error (.itself z.id)
  else if other ∈ z.adjacent then .ok z
  else if z.adjacent.length < maxAdjacent then .ok { z with adjacent := z.adjacent ++ [other] }
  else .error (.full z.id)

/-- Declares neighbours one after another, up to the first that is refused. -/
def addAllAdjacent (z : Zone) (others : List ZoneId) : Except AdjacencyError Zone :=
  others.foldlM addAdjacent z

/-- All slots of the zone, in the order in which they are searched. -/
def slots (z : Zone) : List Slot :=
  z.areas.flatMap (·.slots)

/-- The number of slots. -/
def capacity (z : Zone) : Nat := z.slots.length

/-- The number of slots that are not free. -/
def occupied (z : Zone) : Nat := z.slots.countP (!·.available)

/-- The first free slot among `areas`, the areas being counted from `i`. -/
def firstAvailableFrom (i : Nat) : List Area → Option (Nat × Nat)
  | [] => none
  | a :: rest =>
    match a.firstAvailable with
    | some j => some (i, j)
    | none => firstAvailableFrom (i + 1) rest

/-- The places, in the zone and in its area, of the first free slot. -/
def firstAvailable (z : Zone) : Option (Nat × Nat) :=
  firstAvailableFrom 0 z.areas

@[simp] theorem addArea_areas (z : Zone) (a : Area) :
    (z.addArea a).areas = z.areas ++ [a] := rfl

@[simp] theorem addArea_id (z : Zone) (a : Area) : (z.addArea a).id = z.id := rfl

end Zone

end Garage

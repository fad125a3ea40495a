/-
# Layouts

A layout says which zones a garage has, which areas they have and how many slots there are in
each area.  Not every layout can be built: `Layout.build` checks it zone by zone and stops at
the first thing that is wrong.
-/
import Garage.Facility

namespace Garage

/-- An area and the number of its slots. -/
structure AreaLayout where
  id : AreaId
  slots : UInt32
deriving DecidableEq, Repr

/-- A zone, its neighbours and its areas. -/
structure ZoneLayout where
  id : ZoneId
  /-- The neighbours as they were written down; one may be there more than once. -/
  adjacent : List ZoneId
  areas : List AreaLayout
deriving DecidableEq, Repr

/-- The zones of a garage. -/
structure Layout where
  zones : List ZoneLayout
deriving DecidableEq, Repr

/-- Why a layout cannot be built. -/
inductive BuildError
  | duplicateZone (zone : ZoneId)
  | duplicateArea (area : AreaId) (zone : ZoneId)
  | adjacency (error : AdjacencyError)
deriving DecidableEq, Repr

def BuildError.message : BuildError → String
  | .duplicateZone zone => s!"Invalid layout: duplicate zone id {zone}"
  | .duplicateArea area zone => s!"Invalid layout: duplicate area id {area} in zone {zone}"
  | .adjacency error => error.message

/-- The first member of a list that equals an earlier one, or one of `seen`. -/
def firstRepeated {α : Type} [DecidableEq α] (seen : List α) : List α → Option α
  | [] => none
  | a :: rest => if a ∈ seen then some a else firstRepeated (a :: seen) rest

/-- The area with all its slots free. -/
def AreaLayout.build (a : AreaLayout) (zone : ZoneId) : Area := .numbered a.id zone a.slots

/-- The zone with all its slots free. -/
def ZoneLayout.build (z : ZoneLayout) : Except BuildError Zone :=
  match firstRepeated [] (z.areas.map (·.id)) with
  | some area => .error (.duplicateArea area z.id)
  | none =>
    let bare : Zone := ⟨z.id, z.areas.map (·.build z.id), []⟩
    (bare.addAllAdjacent z.adjacent).mapError .adjacency

namespace Layout

/-- Builds zones in order; their ids must differ from one another and from those in `seen`. -/
def buildZones (seen : List ZoneId) : List ZoneLayout → Except BuildError (List Zone)
  | [] => .ok []
  | z :: rest =>
    if z.id ∈ seen then .error (.duplicateZone z.id)
    else do
      let zone ← z.build
      let zones ← buildZones (z.id :: seen) rest
      return zone :: zones

/-- The zones of a layout, all slots being free. -/
def build (l : Layout) : Except BuildError (List Zone) := buildZones [] l.zones

/-- A garage after this layout. -/
def facility (l : Layout) : Except BuildError Facility := l.build.map Facility.ofZones

/-- Two zones next to each other, with seven slots and with six. -/
def demo : Layout := ⟨[⟨1, [2], [⟨1, 7⟩]⟩, ⟨2, [1], [⟨1, 6⟩]⟩]⟩

end Layout

end Garage

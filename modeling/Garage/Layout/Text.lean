/-
# The text of a layout

A layout is written as compact JSON or as YAML in block style.  Both leave the neighbours of a
zone out when there are none.  In YAML, the items of a list stand as far to the right as the
name of the list, and an empty list is written as a pair of brackets.
-/
import Garage.Json.Text
import Garage.Layout.Basic

namespace Garage

open Json

/-! ## JSON -/

def AreaLayout.json (a : AreaLayout) : List Char :=
  object [member "areaId" (number a.id.toNat), member "slots" (number a.slots.toNat)]

def ZoneLayout.json (z : ZoneLayout) : List Char :=
  let adjacent :=
    if z.adjacent.isEmpty then []
    else [member "adjacentZones" (array (z.adjacent.map fun id => number id.toNat))]
  object
    (member "id" (number z.id.toNat) :: adjacent
      ++ [member "areas" (array (z.areas.map (·.json)))])

def Layout.json (l : Layout) : List Char :=
  object [member "zones" (array (l.zones.map (·.json)))]

/-! ## YAML -/

/-- A line that ends with a number. -/
def numberLine (start : String) (n : UInt32) : List Char :=
  start.toList ++ number n.toNat ++ ['\n']

/-- A named list of items, each of which has lines of its own. -/
def listLines {α : Type} (name : String) (item : α → List Char) (items : List α) : List Char :=
  if items.isEmpty then name.toList ++ ": []\n".toList
  else name.toList ++ ":\n".toList ++ items.flatMap item

def AreaLayout.yaml (a : AreaLayout) : List Char :=
  numberLine "  - areaId: " a.id ++ numberLine "    slots: " a.slots

def ZoneLayout.yaml (z : ZoneLayout) : List Char :=
  numberLine "- id: " z.id
    ++ (if z.adjacent.isEmpty then []
      else listLines "  adjacentZones" (numberLine "  - ") z.adjacent)
    ++ listLines "  areas" AreaLayout.yaml z.areas

def Layout.yaml (l : Layout) : List Char := listLines "zones" ZoneLayout.yaml l.zones

end Garage

/-
# The garage as JSON

The JSON text of slots, areas, zones, the registry, requests and vehicles.  Every object has all
of its members, in the order of the structure's fields.
-/
import Garage.Json.Text
import Garage.Registry
import Garage.Request

namespace Garage

open Json

def Stage.json (s : Stage) : List Char := quoted s.name.toList

def Slot.json (s : Slot) : List Char :=
  object
    [member "slot_id" (number s.id.toNat),
      member "zone_id" (number s.zone.toNat),
      member "available" (truth s.available)]

def Area.json (a : Area) : List Char :=
  object
    [member "area_id" (number a.id.toNat),
      member "slots" (array (a.slots.map (·.json)))]

def Zone.json (z : Zone) : List Char :=
  object
    [member "zone_id" (number z.id.toNat),
      member "areas" (array (z.areas.map (·.json))),
      member "adjacent_zones" (array (z.adjacent.map fun id => number id.toNat))]

def Registry.json (r : Registry) : List Char :=
  object [member "zones" (array (r.zones.map (·.json)))]

def Handle.json (h : Handle) : List Char :=
  object [member "zone" (number h.zone), member "area" (number h.area),
    member "slot" (number h.slot)]

def Vehicle.json (v : Vehicle) : List Char :=
  object
    [member "vehicle_id" (quoted v.id.toList),
      member "preferred_zone" (number v.preferred.toNat)]

def Request.json (r : Request) : List Char :=
  object
    [member "request_id" (number r.id),
      member "vehicle_id" (quoted r.vehicle.toList),
      member "requested_zone" (number r.zone.toNat),
      member "request_time" (quoted r.time.text),
      member "state" r.stage.json,
      member "allocated_slot" (optional Handle.json r.slot)]

end Garage

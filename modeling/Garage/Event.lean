/-
# What operations report

Every operation of the garage gives a list of events beside its result, in the order in which
things happened.  `Event.line` is the log line of an event.
-/
import Garage.Log
import Garage.Request

namespace Garage

/-- Something worth a line of the log. -/
inductive Event
  /-- A zone was registered under an id that was taken. -/
  | zoneRepeated (zone : ZoneId)
  | zoneRegistered (zone : ZoneId) (areas slots : Nat)
  /-- The zone asked for had no free slot, but `other` has. -/
  | fallback (zone other : ZoneId)
  /-- The lifecycle refused a move. -/
  | moveRefused (id : RequestId) (source target : Stage)
  /-- A record of the history names a slot that is not there. -/
  | unknownSlot (slot : Handle)
  /-- A record of the history names a request that is not there. -/
  | unknownRequest (id : RequestId)
  | rolledBack (count remaining : Nat)
  | undone (id : RequestId) (slot : Handle)
  | vehicleRegistered (vehicle : String) (zone : ZoneId)
  | noSlot (vehicle : String) (zone : ZoneId)
  | allocated (id : RequestId) (vehicle : String) (slot : Handle) (zone : ZoneId)
  | occupied (id : RequestId)
  | cancelled (id : RequestId)
  | released (id : RequestId)
  /-- A rollback came through the shared service. -/
  | serviceRollback (count asked : Nat)
  | layoutLoading (name : String)
deriving DecidableEq, Repr

namespace Event

def level : Event → Level
  | zoneRepeated .. | moveRefused .. | unknownSlot .. | unknownRequest .. => .warn
  | noSlot .. | allocated .. | cancelled .. | released .. => .info
  | zoneRegistered .. | fallback .. | rolledBack .. | undone .. | vehicleRegistered ..
  | occupied .. | serviceRollback .. | layoutLoading .. => .debug

def target : Event → String
  | zoneRepeated .. | zoneRegistered .. => "parking_core::registry"
  | fallback .. => "parking_core::allocation"
  | moveRefused .. => "parking_core::request"
  | unknownSlot .. | unknownRequest .. | rolledBack .. | undone .. => "parking_core::rollback"
  | vehicleRegistered .. | noSlot .. | allocated .. | occupied .. | cancelled ..
  | released .. => "parking_core::system"
  | serviceRollback .. => "parking_core::service"
  | layoutLoading .. => "parking_core::layout"

def message : Event → String
  | zoneRepeated zone => s!"Zone {zone} registered more than once"
  | zoneRegistered zone areas slots =>
    s!"Registered zone {zone} with {areas} areas and {slots} slots"
  | fallback zone other => s!"Zone {zone} has no free slot, falling back to zone {other}"
  | moveRefused id source target => (RequestError.invalidMove id source target).message
  | unknownSlot slot => s!"Rollback record references unknown slot {slot.text}"
  | unknownRequest id => s!"Rollback record references unknown request {id}"
  | rolledBack count remaining => s!"Rolled back {count} allocations, {remaining} remaining"
  | undone id slot => s!"Undid allocation of request {id} ({slot.text})"
  | vehicleRegistered vehicle zone =>
    s!"Registering vehicle {vehicle} (preferred zone {zone})"
  | noSlot vehicle zone => s!"No slot available for vehicle {vehicle} (zone {zone})"
  | allocated id vehicle slot zone =>
    s!"Request {id} for vehicle {vehicle} allocated slot {slot.text} (requested zone {zone})"
  | occupied id => s!"Request {id} is now occupying its slot"
  | cancelled id => s!"Request {id} cancelled"
  | released id => s!"Request {id} released its slot"
  | serviceRollback count asked => s!"Service rollback undid {count} of {asked} requested"
  | layoutLoading name => s!"Loading facility layout from {name}"

def line (e : Event) : LogLine := ⟨e.level, e.target, e.message⟩

end Event

/-- The events of a request's move: none when it is made, a warning when it is refused. -/
def Request.moveEvents (r : Request) (target : Stage) : List Event :=
  if r.stage.canBecome target then [] else [.moveRefused r.id r.stage target]

/-- What an operation leaves behind: its answer, the state after it and what it reports. -/
structure Outcome (σ α : Type) where
  answer : α
  state : σ
  events : List Event

end Garage

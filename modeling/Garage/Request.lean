/-
# Requests and vehicles

A request is one vehicle's claim on a slot.  Only `Request.moveTo` asks the lifecycle whether a
move is allowed.
-/
import Garage.Lifecycle
import Garage.Time
import Garage.Zone

namespace Garage

abbrev RequestId := Nat

/-- A vehicle that has asked for a slot at some time. -/
structure Vehicle where
  id : String
  /-- The zone it asked for the first time. -/
  preferred : ZoneId
deriving DecidableEq, Repr

/-- A vehicle's claim on a slot. -/
structure Request where
  id : RequestId
  vehicle : String
  /-- The zone that was asked for. -/
  zone : ZoneId
  /-- When the request was made. -/
  time : Instant
  stage : Stage
  /-- The slot that the request has, if it has one. -/
  slot : Option Handle
deriving DecidableEq, Repr

/-- Why an operation on requests failed. -/
inductive RequestError
  /-- There is no free slot, in this zone or anywhere else. -/
  | noSlot (zone : ZoneId)
  /-- There is no request with this id. -/
  | notFound (id : RequestId)
  /-- The request has been released or cancelled before. -/
  | alreadyFinal (id : RequestId) (stage : Stage)
  /-- The request has no slot that could be released. -/
  | notReleasable (id : RequestId) (stage : Stage)
  /-- The lifecycle has no such move. -/
  | invalidMove (id : RequestId) (source target : Stage)
  /-- The slot that was chosen is not there. -/
  | unresolved (slot : Handle)
deriving DecidableEq, Repr

def RequestError.message : RequestError → String
  | .noSlot zone => s!"No slot available in zone {zone} or any other zone"
  | .notFound id => s!"Request not found: {id}"
  | .alreadyFinal id stage => s!"Request {id} is already {stage.name}"
  | .notReleasable id stage => s!"Request {id} cannot be released while {stage.name}"
  | .invalidMove id source target =>
    s!"Invalid state transition for request {id}: {source.name} -> {target.name}"
  | .unresolved slot => s!"Internal error: allocated slot {slot.text} does not resolve"

namespace Request

/-- A request as it is first made: it has no slot yet. -/
def new (id : RequestId) (vehicle : String) (zone : ZoneId) (time : Instant) : Request :=
  ⟨id, vehicle, zone, time, .requested, none⟩

/-- Moves the request on, if the lifecycle has the move. -/
def moveTo (r : Request) (target : Stage) : Except RequestError Request :=
  if r.stage.canBecome target then .ok { r with stage := target }
  else .error (.invalidMove r.id r.stage target)

/-- Puts the request back into an earlier stage, without its slot. -/
def restore (r : Request) (stage : Stage) : Request :=
  { r with stage, slot := none }

/-- Whether the request still waits for a slot or for its vehicle. -/
def isActive (r : Request) : Bool :=
  r.stage = .requested || r.stage = .allocated

theorem moveTo_eq_ok_iff {r r' : Request} {t : Stage} :
    r.moveTo t = .ok r' ↔ r.stage.canBecome t = true ∧ r' = { r with stage := t } := by
  unfold moveTo
  split
  next h => simp only [h, true_and, Except.ok.injEq, eq_comm]
  next h => simp [h]

end Request

end Garage

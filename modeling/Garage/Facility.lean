/-
# The facility

A facility ties the registry of a garage, its vehicles, its requests and its history together.  A
request's id is its place in the list of requests.  An operation that fails leaves the facility as
it was, but for one thing: a vehicle that asks for a slot in vain is remembered all the same.
-/
import Garage.Allocation
import Garage.History

namespace Garage

/-- All that a garage knows. -/
structure Facility where
  registry : Registry
  /-- The vehicles that have asked for a slot, in the order of their first requests. -/
  vehicles : List Vehicle
  /-- The requests that got a slot, in order. -/
  requests : List Request
  history : History
deriving DecidableEq, Repr

namespace Facility

def empty : Facility := ⟨.empty, [], [], .empty⟩

/-- Registers a zone. -/
def addZone (s : Facility) (z : Zone) : Facility :=
  { s with registry := s.registry.addZone z }

/-- A facility in which these zones were registered, and nothing has happened since. -/
def ofZones (zones : List Zone) : Facility := zones.foldl addZone empty

/-- What is reported while the zones of a new facility are registered. -/
def ofZonesEvents (zones : List Zone) : List Event :=
  (zones.foldl
    (fun (s, events) z => (s.addZone z, events ++ s.registry.addZoneEvents z))
    (empty, [])).2

def vehicle? (s : Facility) (id : String) : Option Vehicle :=
  s.vehicles.find? (·.id == id)

def request? (s : Facility) (id : RequestId) : Option Request := s.requests[id]?

/-- Remembers a vehicle and the zone it asks for, unless the vehicle is known. -/
def meet (s : Facility) (vehicle : String) (zone : ZoneId) : Facility :=
  if (s.vehicle? vehicle).isSome then s
  else { s with vehicles := s.vehicles ++ [⟨vehicle, zone⟩] }

/-- A vehicle that was not known is worth a note. -/
def meetEvents (s : Facility) (vehicle : String) (zone : ZoneId) : List Event :=
  if (s.vehicle? vehicle).isSome then [] else [.vehicleRegistered vehicle zone]

/-- Stores the request `r` and gives it the slot at `h`.  The record says whether the slot was free
and in which stage the request was before. -/
def allocate (s : Facility) (r : Request) (h : Handle) (wasAvailable : Bool) (before : Stage) :
    Facility :=
  { s with
    registry := s.registry.setAvailable h false
    requests := s.requests ++ [{ r with slot := some h }]
    history := s.history.push ⟨h, wasAvailable, r.id, before⟩ }

/-- Finds a slot for a vehicle that asks for a zone.  The answer is the id of the new request. -/
def submit (s : Facility) (vehicle : String) (zone : ZoneId) (now : Instant) :
    Outcome Facility (Except RequestError RequestId) :=
  let met := s.meet vehicle zone
  let before := s.meetEvents vehicle zone ++ s.registry.chooseEvents zone
  match s.registry.choose zone with
  | none => ⟨.error (.noSlot zone), met, before ++ [.noSlot vehicle zone]⟩
  | some h =>
    let id := s.requests.length
    let asked := Request.new id vehicle zone now
    match asked.moveTo .allocated with
    | .error e => ⟨.error e, met, before ++ asked.moveEvents .allocated⟩
    | .ok r =>
      match s.registry.slot? h with
      | none => ⟨.error (.unresolved h), met, before⟩
      | some p =>
        ⟨.ok id, met.allocate r h p.available asked.stage,
          before ++ [.allocated id vehicle h zone]⟩

/-- Marks the vehicle of a request as parked. -/
def occupy (s : Facility) (id : RequestId) : Outcome Facility (Except RequestError Unit) :=
  match s.request? id with
  | none => ⟨.error (.notFound id), s, []⟩
  | some r =>
    match r.moveTo .occupied with
    | .error e => ⟨.error e, s, r.moveEvents .occupied⟩
    | .ok r' => ⟨.ok (), { s with requests := s.requests.set id r' }, [.occupied id]⟩

/-- Ends the request `r`, which stands at place `id`, and gives its slot back. -/
def finish (s : Facility) (id : RequestId) (r : Request) (target : Stage) (done : Event) :
    Outcome Facility (Except RequestError Unit) :=
  match r.moveTo target with
  | .error e => ⟨.error e, s, r.moveEvents target⟩
  | .ok r' =>
    let undone := s.history.undo id s.registry
    ⟨.ok (),
      { s with
        requests := s.requests.set id { r' with slot := none }
        history := undone.state.1
        registry := undone.state.2 },
      undone.events ++ [done]⟩

/-- Cancels a request that its vehicle has not used yet. -/
def cancel (s : Facility) (id : RequestId) : Outcome Facility (Except RequestError Unit) :=
  match s.request? id with
  | none => ⟨.error (.notFound id), s, []⟩
  | some r =>
    if r.stage.isFinal then ⟨.error (.alreadyFinal id r.stage), s, []⟩
    else s.finish id r .cancelled (.cancelled id)

/-- Ends a request whose vehicle leaves. -/
def release (s : Facility) (id : RequestId) : Outcome Facility (Except RequestError Unit) :=
  match s.request? id with
  | none => ⟨.error (.notFound id), s, []⟩
  | some r =>
    if r.stage.holdsSlot then s.finish id r .released (.released id)
    else ⟨.error (.notReleasable id r.stage), s, []⟩

/-- Takes the `k` newest outstanding allocations back.  The answer is how many there were. -/
def rollback (s : Facility) (k : Nat) : Outcome Facility Nat :=
  let undone := s.history.rollback k s.registry s.requests
  let (history, registry, requests) := undone.state
  ⟨undone.answer, { s with history, registry, requests }, undone.events⟩

@[simp] theorem addZone_registry (s : Facility) (z : Zone) :
    (s.addZone z).registry = s.registry.addZone z := rfl

@[simp] theorem meet_registry (s : Facility) (v : String) (z : ZoneId) :
    (s.meet v z).registry = s.registry := by
  unfold meet
  split <;> rfl

@[simp] theorem meet_requests (s : Facility) (v : String) (z : ZoneId) :
    (s.meet v z).requests = s.requests := by
  unfold meet
  split <;> rfl

@[simp] theorem meet_history (s : Facility) (v : String) (z : ZoneId) :
    (s.meet v z).history = s.history := by
  unfold meet
  split <;> rfl

end Facility

end Garage

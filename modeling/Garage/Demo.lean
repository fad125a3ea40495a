/-
# The demonstration

A garage is opened after a layout from a file, or after the built-in one.  A few vehicles ask for
slots; the last of them that got one parks and leaves; in the end the occupancy is reported.  All
that happens goes to the log.
-/
import Garage.Layout.Read
import Garage.Operation
import Garage.Summary

namespace Garage

/-- Why the demonstration ended early: what was being done, and the causes, the nearest one
first. -/
structure Failure where
  context : String
  causes : List String
deriving DecidableEq, Repr

/-- Several causes are numbered. -/
def Failure.text (f : Failure) : String :=
  let causes :=
    match f.causes with
    | [] => []
    | [cause] => [s!"    {cause}"]
    | causes => causes.zipIdx.map fun (cause, i) => s!"    {i}: {cause}"
  let lines :=
    s!"Error: {f.context}" :: if causes.isEmpty then [] else "" :: "Caused by:" :: causes
  String.join (lines.map (· ++ "\n"))

/-- What was logged, and how the demonstration ended. -/
structure Report where
  lines : List LogLine
  result : Except Failure Unit

namespace Demo

/-- Something that writes to the log, and may fail. -/
abbrev Logged := ExceptT Failure (StateM (List LogLine))

def log (lines : List LogLine) : Logged Unit := modify (· ++ lines)

/-- Logs something that the demonstration itself has to say. -/
def say (level : Level) (message : String) : Logged Unit := log [⟨level, "parking_demo", message⟩]

/-- Does one operation for a client of the service, and logs what is reported. -/
def serve (s : Facility) (op : Operation) : Logged (Except RequestError Answer × Facility) := do
  let o := s.serve op
  log (o.events.map Event.line)
  return (o.answer, o.state)

/-- Does one operation that must not fail. -/
def serveOk (s : Facility) (op : Operation) : Logged Facility := do
  match ← serve s op with
  | (.ok _, s) => return s
  | (.error e, _) => throw ⟨e.message, []⟩

/-- The vehicles that ask for slots, each with a zone. -/
def vehicles : List (String × ZoneId) := [("ALI-123", 1), ("SHZ-789", 1), ("VIS-456", 2)]

/-- The layout of the file, or the built-in one. -/
def chooseLayout : Option LayoutFile → Logged Layout
  | none => do
    say .warn "PARKING_LAYOUT not set - using built-in demo layout"
    return .demo
  | some file => do
    log (file.events.map Event.line)
    match file.layout with
    | .error e => throw ⟨s!"Failed to load layout from {file.name}", [e.message, e.cause]⟩
    | .ok layout =>
      say .info s!"Facility layout loaded from {file.name}"
      return layout

/-- Opens the garage. -/
def opened (layout : Layout) : Logged Facility := do
  match layout.build with
  | .error e => throw ⟨"Failed to build parking system from layout", [e.message]⟩
  | .ok zones =>
    log ((Facility.ofZonesEvents zones).map Event.line)
    say .info s!"Parking system initialized with {layout.zones.length} zones"
    return Facility.ofZones zones

/-- Lets vehicles ask for slots.  Beside the garage, the result is the last request so far that got
a slot.  No time is ever shown, so that all requests are made at the same one. -/
def seed (s : Facility) (last : Option RequestId) :
    List (String × ZoneId) → Logged (Facility × Option RequestId)
  | [] => return (s, last)
  | (vehicle, zone) :: rest => do
    match ← serve s (.submit vehicle zone ⟨0, 0⟩) with
    | (.ok (.request id), s) =>
      say .info s!"Seeded request {id} for {vehicle} in zone {zone}"
      seed s (some id) rest
    | (.ok _, s) => seed s last rest
    | (.error e, s) =>
      say .warn s!"Could not seed request for {vehicle}: {e.message}"
      seed s last rest

/-- The vehicle of a request parks and leaves. -/
def visit (s : Facility) (id : RequestId) : Logged Facility := do
  let s ← serveOk s (.occupy id)
  let s ← serveOk s (.release id)
  say .info s!"Request {id} occupied and released"
  return s

def run (file : Option LayoutFile) : Logged Unit := do
  say .info "Starting parking-demo..."
  let s ← opened (← chooseLayout file)
  let (s, last) ← seed s none vehicles
  let s ← match last with
    | some id => visit s id
    | none => pure s
  log s.summary.lines

end Demo

/-- The demonstration with a file that may hold a layout. -/
def demonstrate (file : Option LayoutFile) : Report :=
  let (result, lines) := (Demo.run file).run.run []
  ⟨lines, result⟩

namespace Report

/-- The lines of the log that a filter shows. -/
def shown (r : Report) (filter : LogFilter) : List LogLine := r.lines.filter filter.shows

def exitCode (r : Report) : UInt32 := if r.result.isOk then 0 else 1

/-- What is said about a failure. -/
def complaint (r : Report) : String :=
  match r.result with
  | .ok () => ""
  | .error f => f.text

end Report

end Garage

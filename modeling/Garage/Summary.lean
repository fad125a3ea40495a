/-
# The occupancy summary

For every zone and for the garage as a whole: how many slots there are, how many are taken, and
what share that is, as a percentage rounded to the nearest whole number, halves upwards.
-/
import Garage.Facility

namespace Garage

/-- `part` of `whole` in percent, to the nearest whole number, halves upwards; nothing is zero
percent of nothing. -/
def percent (part whole : Nat) : Nat :=
  if whole = 0 then 0 else (part * 100 + whole / 2) / whole

/-- The occupancy of one zone. -/
structure ZoneSummary where
  zone : ZoneId
  /-- The number of slots. -/
  capacity : Nat
  /-- The number of slots that are taken. -/
  occupied : Nat
deriving DecidableEq, Repr

/-- The occupancy of a garage. -/
structure Summary where
  zones : List ZoneSummary
  /-- The number of requests that wait for a slot or for their vehicle. -/
  activeRequests : Nat
deriving DecidableEq, Repr

def ZoneSummary.utilization (z : ZoneSummary) : Nat := percent z.occupied z.capacity

def ZoneSummary.message (z : ZoneSummary) : String :=
  s!"Zone {z.zone}: {z.occupied}/{z.capacity} slots occupied ({z.utilization}%)"

def Zone.summary (z : Zone) : ZoneSummary := ⟨z.id, z.capacity, z.occupied⟩

/-- The occupancy of a garage as it stands. -/
def Facility.summary (s : Facility) : Summary :=
  ⟨s.registry.zones.map (·.summary), s.requests.countP (·.isActive)⟩

namespace Summary

def totalSlots (s : Summary) : Nat := s.zones.foldr (·.capacity + ·) 0

def occupiedSlots (s : Summary) : Nat := s.zones.foldr (·.occupied + ·) 0

def utilization (s : Summary) : Nat := percent s.occupiedSlots s.totalSlots

def message (s : Summary) : String :=
  s!"Facility: {s.zones.length} zones, {s.occupiedSlots} occupied slots, "
    ++ s!"{s.activeRequests} active requests, {s.utilization}% utilization"

/-- The summary as lines of the log: one for each zone, then one for the garage. -/
def lines (s : Summary) : List LogLine :=
  (s.zones.map (·.message) ++ [s.message]).map (⟨.info, "parking_demo::summary", ·⟩)

end Summary

end Garage

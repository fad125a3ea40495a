/-
# The life of a request

A request is first asked for, then given a slot, then occupied and released; it may be
cancelled before it is occupied.  `Stage.canBecome` is the whole table of moves.  Taking an
allocation back puts a request into an earlier stage and does not ask the table.
-/

namespace Garage

/-- Where a request stands. -/
inductive Stage
  | requested
  | allocated
  | occupied
  | released
  | cancelled
deriving DecidableEq, Repr

namespace Stage

def all : List Stage := [requested, allocated, occupied, released, cancelled]

/-- The moves of the lifecycle. -/
def canBecome : Stage → Stage → Bool
  | requested, allocated => true
  | requested, cancelled => true
  | allocated, occupied => true
  | allocated, cancelled => true
  | occupied, released => true
  | _, _ => false

/-- Stages that no move leaves. -/
def isFinal : Stage → Bool
  | released | cancelled => true
  | _ => false

/-- Stages in which a request has a slot. -/
def holdsSlot : Stage → Bool
  | allocated | occupied => true
  | _ => false

def name : Stage → String
  | requested => "REQUESTED"
  | allocated => "ALLOCATED"
  | occupied => "OCCUPIED"
  | released => "RELEASED"
  | cancelled => "CANCELLED"

/-- The stage with a given name. -/
def ofName? (text : String) : Option Stage :=
  all.find? (·.name == text)

theorem isFinal_iff (s : Stage) : s.isFinal = true ↔ ∀ t, s.canBecome t = false := by
  constructor
  · intro h t
    cases s <;> cases t <;> simp_all [isFinal, canBecome]
  · intro h
    have ha := h allocated
    have ho := h occupied
    have hr := h released
    cases s <;> simp_all [isFinal, canBecome]

end Stage

end Garage

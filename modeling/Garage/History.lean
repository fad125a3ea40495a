/-
# The history of allocations

Every allocation leaves a record of what it changed, so that it can be taken back.  The history
keeps the records that are still outstanding, the newest first.  It is undone in two ways: from
the newest record on, as many as are asked for, or one request's record from wherever it stands.

A record names its slot and its request by position.  Should nothing be there, the other half of
the record is restored all the same.

A rollback goes from record to record (`rollbackFrom`).  As no record cares for what another one
restores, it comes to the same as taking the newest records off at once and restoring first all
their slots and then all their requests (`rollback_eq`).
-/
import Garage.Event
import Garage.Registry

namespace Garage

/-- What an allocation changed. -/
structure Record where
  slot : Handle
  /-- Whether the slot was free before. -/
  wasAvailable : Bool
  request : RequestId
  /-- The stage of the request before. -/
  stage : Stage
deriving DecidableEq, Repr

namespace Record

/-- Gives the slot its former availability back. -/
def restoreSlot (e : Record) (r : Registry) : Registry :=
  r.setAvailable e.slot e.wasAvailable

/-- Puts the request back into its former stage. -/
def restoreRequest (e : Record) (requests : List Request) : List Request :=
  requests.modify e.request (·.restore e.stage)

/-- A warning if the record names a slot that is not there. -/
def slotEvents (e : Record) (r : Registry) : List Event :=
  if (r.slot? e.slot).isSome then [] else [.unknownSlot e.slot]

/-- A warning if the record names a request that is not there. -/
def requestEvents (e : Record) (requests : List Request) : List Event :=
  if e.request < requests.length then [] else [.unknownRequest e.request]

end Record

/-- The records of the allocations that have not been taken back. -/
structure History where
  /-- The records, the newest first. -/
  records : List Record
deriving DecidableEq, Repr

namespace History

def empty : History := ⟨[]⟩

/-- Adds the record of an allocation. -/
def push (h : History) (e : Record) : History := ⟨e :: h.records⟩

def size (h : History) : Nat := h.records.length

def newest? (h : History) : Option Record := h.records.head?

/-- The newest record of a request. -/
def find? (h : History) (id : RequestId) : Option Record :=
  h.records.find? (·.request == id)

def contains (h : History) (id : RequestId) : Bool :=
  h.records.any (·.request == id)

/-- The history without the newest record of a request. -/
def eraseRequest (h : History) (id : RequestId) : History :=
  ⟨h.records.eraseP (·.request == id)⟩

/-- The turns of a rollback.  While fewer than `k` records have been taken back, the newest of those
that are left is taken out, and its slot and then its request are restored.  `count` is how many
have been taken back before. -/
def rollbackFrom (k : Nat) : (count : Nat) → (records : List Record) → Registry → List Request →
    Outcome (History × Registry × List Request) Nat
  | count, [], r, requests => ⟨count, (⟨[]⟩, r, requests), []⟩
  | count, e :: records, r, requests =>
    if count < k then
      let rest := rollbackFrom k (count + 1) records (e.restoreSlot r) (e.restoreRequest requests)
      { rest with events := e.slotEvents r ++ e.requestEvents requests ++ rest.events }
    else ⟨count, (⟨e :: records⟩, r, requests), []⟩

/-- Takes back the `k` newest records, or all if there are fewer; slots and requests are
restored.  The answer is how many records were taken back. -/
def rollback (h : History) (k : Nat) (r : Registry) (requests : List Request) :
    Outcome (History × Registry × List Request) Nat :=
  let turns := rollbackFrom k 0 h.records r requests
  { turns with events := turns.events ++ [.rolledBack turns.answer turns.state.1.size] }

/-- Takes back the newest record of one request: only the slot is restored.  The answer is the
record, if there was one. -/
def undo (h : History) (id : RequestId) (r : Registry) :
    Outcome (History × Registry) (Option Record) :=
  match h.find? id with
  | none => ⟨none, (h, r), []⟩
  | some e =>
    ⟨some e, (h.eraseRequest id, e.restoreSlot r), e.slotEvents r ++ [.undone id e.slot]⟩

@[simp] theorem size_push (h : History) (e : Record) : (h.push e).size = h.size + 1 := rfl

/-- A request without records has none to lose. -/
theorem eraseRequest_of_find?_eq_none {h : History} {id : RequestId} (hf : h.find? id = none) :
    h.eraseRequest id = h := by
  rw [eraseRequest, List.eraseP_of_forall_not (List.find?_eq_none.mp hf)]

end History

/-! ### A rollback as a whole -/

/-- Restores the slots of several records, one after another. -/
def Registry.restoreAll (r : Registry) (records : List Record) : Registry :=
  records.foldl (fun r e => e.restoreSlot r) r

/-- Restores the requests of several records, one after another. -/
def restoreRequests (requests : List Request) (records : List Record) : List Request :=
  records.foldl (fun rs e => e.restoreRequest rs) requests

namespace Record

/-- To restore a slot changes nothing about which slots are there. -/
theorem slotEvents_restoreSlot (e e' : Record) (r : Registry) :
    e.slotEvents (e'.restoreSlot r) = e.slotEvents r := by
  rw [slotEvents, slotEvents, restoreSlot, Registry.slot?_setAvailable]
  split
  case isTrue => rw [Option.isSome_map]
  case isFalse => rfl

theorem requestEvents_restoreRequest (e e' : Record) (requests : List Request) :
    e.requestEvents (e'.restoreRequest requests) = e.requestEvents requests := by
  rw [requestEvents, requestEvents, restoreRequest, List.length_modify]

end Record

namespace History

/-- The history without its `k` newest records. -/
def dropNewest (h : History) (k : Nat) : History := ⟨h.records.drop k⟩

/-- The `k` newest records, the newest first. -/
def takeNewest (h : History) (k : Nat) : List Record := h.records.take k

/-- What is reported when the `k` newest records are taken back: the warnings of each record in
turn, then how many there were. -/
def rollbackEvents (h : History) (k : Nat) (r : Registry) (requests : List Request) :
    List Event :=
  (h.takeNewest k).flatMap (fun e => e.slotEvents r ++ e.requestEvents requests)
    ++ [.rolledBack (h.takeNewest k).length (h.dropNewest k).size]

/-- The turns that are left, of which there are `n` unless the records come to an end. -/
theorem rollbackFrom_eq (count n : Nat) (records : List Record) (r : Registry)
    (requests : List Request) : rollbackFrom (count + n) count records r requests =
      ⟨count + (records.take n).length,
        (⟨records.drop n⟩, r.restoreAll (records.take n),
          restoreRequests requests (records.take n)),
        (records.take n).flatMap fun e => e.slotEvents r ++ e.requestEvents requests⟩ := by
  induction records generalizing count n r requests with
  | nil => simp [rollbackFrom, Registry.restoreAll, restoreRequests]
  | cons e records ih =>
    cases n with
    | zero => simp [rollbackFrom, Registry.restoreAll, restoreRequests]
    | succ n =>
      have hlt : count < count + (n + 1) := by omega
      have hk : count + (n + 1) = count + 1 + n := by omega
      rw [rollbackFrom, if_pos hlt, hk, ih]
      -- What the newest record restores makes no difference to the warnings of the others.
      simp only [Record.slotEvents_restoreSlot, Record.requestEvents_restoreRequest]
      simp [Registry.restoreAll, restoreRequests, Nat.add_assoc, Nat.add_comm 1]

/-- A rollback restores the slots and the requests of the `k` newest records and drops them. -/
theorem rollback_eq (h : History) (k : Nat) (r : Registry) (requests : List Request) :
    h.rollback k r requests =
      ⟨(h.takeNewest k).length,
        (h.dropNewest k, r.restoreAll (h.takeNewest k),
          restoreRequests requests (h.takeNewest k)),
        h.rollbackEvents k r requests⟩ := by
  have hturns := rollbackFrom_eq 0 k h.records r requests
  rw [Nat.zero_add] at hturns
  rw [rollback, hturns, Nat.zero_add]
  rfl

theorem rollback_answer (h : History) (k : Nat) (r : Registry) (requests : List Request) :
    (h.rollback k r requests).answer = min k h.size := by
  rw [rollback_eq, takeNewest, List.length_take, size]

end History

end Garage

/-
# The shape of a layout

Which members the records of a layout have is said once, for all formats.  A format brings three
readers of its own: for numbers, for lists and for records.

While a record is read, what is known of it is kept in a draft.  When the record is over, the
draft either gives the record or lacks a member that has to be there.
-/
import Garage.Layout.Basic
import Garage.Layout.Mismatch

namespace Garage

/-- A member of a record that is kept in drafts of type `δ`. -/
structure Field (R : Type → Type) (δ : Type) where
  name : String
  /-- The type of the member's value. -/
  {β : Type}
  /-- Reads the member's value. -/
  value : R β
  /-- Whether the value is in the draft. -/
  isSet : δ → Bool
  /-- Puts the value into the draft. -/
  set : β → δ → δ

/-- A record of type `α` with drafts of type `δ`. -/
structure Shape (R : Type → Type) (δ α : Type) where
  /-- How the record is called in messages. -/
  title : String
  /-- The draft before anything is read. -/
  start : δ
  /-- The members, in the order in which they stand if their names are left out. -/
  fields : List (Field R δ)
  /-- The record, or the name of a member that is missing. -/
  finish : δ → Except String α

/-- The readers of a format. -/
structure Format (R : Type → Type) where
  /-- Reads a number of 32 bits. -/
  word : R UInt32
  /-- Reads a list. -/
  list : {α : Type} → R α → R (List α)
  /-- Reads a record. -/
  record : {δ α : Type} → Shape R δ α → R α

/-- The title of a shape together with the number of its members. -/
def Shape.titleWithSize {R : Type → Type} {δ α : Type} (s : Shape R δ α) : String :=
  let n := s.fields.length
  s!"{s.title} with {n} element" ++ if n = 1 then "" else "s"

/-- The member of a shape with a given name. -/
def Shape.field? {R : Type → Type} {δ α : Type} (s : Shape R δ α) (name : String) :
    Option (Field R δ) :=
  s.fields.find? (·.name == name)

/-- The value of a member that has to be there. -/
def required {α : Type} (name : String) : Option α → Except String α
  | some a => .ok a
  | none => .error name

/-- What is known of an area. -/
structure AreaDraft where
  id : Option AreaId
  slots : Option UInt32
deriving DecidableEq, Repr

/-- What is known of a zone. -/
structure ZoneDraft where
  id : Option ZoneId
  adjacent : Option (List ZoneId)
  areas : Option (List AreaLayout)
deriving DecidableEq, Repr

def AreaDraft.finish (d : AreaDraft) : Except String AreaLayout := do
  return ⟨← required "areaId" d.id, ← required "slots" d.slots⟩

/-- Only the id of a zone has to be there; what is left out is empty. -/
def ZoneDraft.finish (d : ZoneDraft) : Except String ZoneLayout := do
  return ⟨← required "id" d.id, d.adjacent.getD [], d.areas.getD []⟩

namespace Format

variable {R : Type → Type} (f : Format R)

def area : R AreaLayout :=
  f.record
    { title := "struct AreaLayout"
      start := (⟨none, none⟩ : AreaDraft)
      fields :=
        [⟨"areaId", f.word, fun d => d.id.isSome, fun n d => { d with id := some n }⟩,
          ⟨"slots", f.word, fun d => d.slots.isSome, fun n d => { d with slots := some n }⟩]
      finish := AreaDraft.finish }

def zone : R ZoneLayout :=
  f.record
    { title := "struct ZoneLayout"
      start := (⟨none, none, none⟩ : ZoneDraft)
      fields :=
        [⟨"id", f.word, fun d => d.id.isSome, fun n d => { d with id := some n }⟩,
          ⟨"adjacentZones", f.list f.word, fun d => d.adjacent.isSome,
            fun ns d => { d with adjacent := some ns }⟩,
          ⟨"areas", f.list f.area, fun d => d.areas.isSome,
            fun xs d => { d with areas := some xs }⟩]
      finish := ZoneDraft.finish }

/-- Reads a layout. -/
def layout : R Layout :=
  f.record
    { title := "struct FacilityLayout"
      start := (none : Option (List ZoneLayout))
      fields := [⟨"zones", f.list f.zone, fun d => d.isSome, fun zs _ => some zs⟩]
      finish := fun d => (required "zones" d).map Layout.mk }

end Format

end Garage

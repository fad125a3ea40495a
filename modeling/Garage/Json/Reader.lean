/-
# Reading JSON

A reader takes a value from the front of a list of lexemes.  Objects are read member by member,
in whatever order they come; members that the shape does not know are passed over.  A record may
also be written as a list of its values in the order of the shape.

Faults are noticed at the first lexeme that does not fit.  What is wrong with a record as a whole
(a member is missing, or too few values are there) is noticed at its end.
-/
import Garage.Json.Skip
import Garage.Layout.Shape

namespace Garage.Json

/-- Takes a value from the front of the lexemes of a text; the number is the size of the text in
bytes. -/
abbrev Reader (α : Type) := (size : Nat) → List Lexeme → Except Fault (α × List Lexeme)

/-- The value at the front is not of the kind that is wanted. -/
def wrongKind (wanted : String) (size : Nat) (ls : List Lexeme) : Fault :=
  let found (f : Found) (offset : Nat) : Fault := ⟨.mismatch (.wrongKind f wanted), offset⟩
  match ls with
  | [] => ⟨.valueEnds, size⟩
  | l :: _ =>
    match l.kind with
    | .mark .openList => found .sequence l.start
    | .mark .openObject => found .map l.start
    | .mark _ | .stray => ⟨.valueExpected, l.start + 1⟩
    | .null => found (.nothing "null") l.stop
    | .truth b => found (.truth b) l.stop
    | .number (.ok n) => found n.found l.stop
    | .text (.ok cs) => found (.text cs) l.stop
    | .number (.error f) | .text (.error f) => f
    | .broken _ wanted _ => wanted

/-- Reads a number of 32 bits. -/
def readWord : Reader UInt32 := fun size ls =>
  match ls with
  | ⟨.number (.ok (.integer n)), _, stop⟩ :: rest =>
    if n < 0 then .error ⟨.mismatch (.wrongValue (.integer n) wordName), stop⟩
    else
      match wordOfNat n.toNat with
      | .ok w => .ok (w, rest)
      | .error m => .error ⟨.mismatch m, stop⟩
  | _ => .error (wrongKind wordName size ls)

/-! ## Lists -/

/-- The lexemes of the next item, or none if the list ends; the closing bracket is not taken. -/
def nextItem (size : Nat) (first : Bool) (ls : List Lexeme) : Except Fault (Option (List Lexeme)) :=
  match ls with
  | [] => .error ⟨.listEnds, size⟩
  | l :: rest =>
    if l.isMark .closeList then .ok none
    else if first then .ok (some ls)
    else if l.isMark .comma then
      match rest with
      | [] => .error ⟨.valueEnds, size⟩
      | next :: _ =>
        if next.isMark .closeList then .error ⟨.trailingComma, next.start + 1⟩
        else .ok (some rest)
    else .error ⟨.listCommaExpected, l.start + 1⟩

/-- The closing bracket of a list of which no more items are wanted. -/
def closeList (size : Nat) (ls : List Lexeme) : Except Fault (List Lexeme) :=
  match ls with
  | [] => .error ⟨.listEnds, size⟩
  | l :: rest =>
    if l.isMark .closeList then .ok rest
    else if l.isMark .comma then
      match rest with
      | [] => .error ⟨.trailingCharacters, size⟩
      | next :: _ =>
        if next.isMark .closeList then .error ⟨.trailingComma, next.start + 1⟩
        else .error ⟨.trailingCharacters, next.start + 1⟩
    else .error ⟨.trailingCharacters, l.start + 1⟩

/-- The items of a list.  Every item takes a lexeme at least, so the number of lexemes is fuel
enough. -/
def readItems {α : Type} (item : Reader α) (size : Nat) :
    (fuel : Nat) → (first : Bool) → List Lexeme → Except Fault (List α × List Lexeme)
  | 0, _, _ => .error ⟨.listEnds, size⟩
  | fuel + 1, first, ls => do
    match ← nextItem size first ls with
    | none => return ([], ls)
    | some ls =>
      let (a, ls) ← item size ls
      let (as', ls) ← readItems item size fuel false ls
      return (a :: as', ls)

/-- Reads a list. -/
def readList {α : Type} (item : Reader α) : Reader (List α) := fun size ls =>
  match ls with
  | ⟨.mark .openList, _, _⟩ :: rest => do
    let (as', ls) ← readItems item size ls.length true rest
    return (as', ← closeList size ls)
  | _ => .error (wrongKind "a sequence" size ls)

/-! ## Records -/

/-- The offset at which it is noticed that a record is wrong: after its end if that comes next,
and otherwise before whatever comes. -/
def settled (size : Nat) (close : Mark) (ls : List Lexeme) : Nat :=
  match ls with
  | [] => size
  | l :: _ => if l.isMark close then l.stop else l.start

/-- Reads the values of a record that is written as a list.  The result also says how many values
there were. -/
def readInOrder {δ : Type} (size : Nat) :
    List (Field Reader δ) → (first : Bool) → (count : Nat) → δ → List Lexeme →
      Except Fault (δ × Nat × List Lexeme)
  | [], _, count, d, ls => .ok (d, count, ls)
  | f :: fs, first, count, d, ls => do
    match ← nextItem size first ls with
    | none => return (d, count, ls)
    | some ls =>
      let (b, ls) ← f.value size ls
      readInOrder size fs false (count + 1) (f.set b d) ls

/-- The lexemes of the next member, or none if the object ends; the closing brace is not taken. -/
def nextMember (size : Nat) (first : Bool) (ls : List Lexeme) :
    Except Fault (Option (List Lexeme)) :=
  let name (ls : List Lexeme) : Except Fault (Option (List Lexeme)) :=
    match ls with
    | [] => .error ⟨.valueEnds, size⟩
    | l :: _ =>
      match l.kind with
      | .text _ | .broken true _ _ => .ok (some ls)
      | .mark .closeObject => .error ⟨.trailingComma, l.start + 1⟩
      | _ => .error ⟨.textKeyExpected, l.start + 1⟩
  match ls with
  | [] => .error ⟨.objectEnds, size⟩
  | l :: rest =>
    if l.isMark .closeObject then .ok none
    else if first then name ls
    else if l.isMark .comma then name rest
    else .error ⟨.objectCommaExpected, l.start + 1⟩

/-- The closing brace of an object. -/
def closeObject (size : Nat) (ls : List Lexeme) : Except Fault (List Lexeme) :=
  match ls with
  | [] => .error ⟨.objectEnds, size⟩
  | l :: rest =>
    if l.isMark .closeObject then .ok rest
    else if l.isMark .comma then .error ⟨.trailingComma, l.start + 1⟩
    else .error ⟨.trailingCharacters, l.start + 1⟩

/-- A name. -/
def readName : Reader (List Char) := fun size ls =>
  match ls with
  | [] => .error ⟨.objectEnds, size⟩
  | l :: rest =>
    match l.kind with
    | .text value => value.map (·, rest)
    | .broken true wanted _ => .error wanted
    | _ => .error ⟨.textKeyExpected, l.start + 1⟩

/-- The colon after a name. -/
def takeColon (size : Nat) (ls : List Lexeme) : Except Fault (List Lexeme) :=
  match ls with
  | [] => .error ⟨.objectEnds, size⟩
  | l :: rest =>
    if l.isMark .colon then .ok rest else .error ⟨.colonExpected, l.start + 1⟩

/-- The value of the member `name`, which is put into the draft if the shape has such a member. -/
def readMember {δ α : Type} (shape : Shape Reader δ α) (name : List Char) (size : Nat) (d : δ)
    (ls : List Lexeme) : Except Fault (δ × List Lexeme) :=
  match shape.field? (String.ofList name) with
  | none => do return (d, ← skipValue size (← takeColon size ls))
  | some f =>
    if f.isSet d then
      .error ⟨.mismatch (.duplicateField f.name), settled size .closeObject ls⟩
    else do
      let (b, ls) ← f.value size (← takeColon size ls)
      return (f.set b d, ls)

/-- The members of an object.  Every member takes a lexeme at least, so the number of lexemes is
fuel enough. -/
def readMembers {δ α : Type} (shape : Shape Reader δ α) (size : Nat) :
    (fuel : Nat) → (first : Bool) → δ → List Lexeme → Except Fault (δ × List Lexeme)
  | 0, _, _, _ => .error ⟨.objectEnds, size⟩
  | fuel + 1, first, d, ls => do
    match ← nextMember size first ls with
    | none => return (d, ls)
    | some ls =>
      let (name, ls) ← readName size ls
      let (d, ls) ← readMember shape name size d ls
      readMembers shape size fuel false d ls

/-- Reads a record. -/
def readRecord {δ α : Type} (shape : Shape Reader δ α) : Reader α := fun size ls =>
  match ls with
  | ⟨.mark .openList, _, _⟩ :: rest => do
    let (d, count, ls) ← readInOrder size shape.fields true 0 shape.start rest
    match shape.finish d with
    | .error _ =>
      throw ⟨.mismatch (.wrongLength count shape.titleWithSize), settled size .closeList ls⟩
    | .ok a => return (a, ← closeList size ls)
  | ⟨.mark .openObject, _, _⟩ :: rest => do
    let (d, ls) ← readMembers shape size ls.length true shape.start rest
    match shape.finish d with
    | .error name =>
      throw ⟨.mismatch (.missingField name), settled size .closeObject ls⟩
    | .ok a => return (a, ← closeObject size ls)
  | _ => .error (wrongKind shape.title size ls)

def format : Format Reader := ⟨readWord, readList, readRecord⟩

/-- The value of a text that holds one value and nothing else. -/
def readWhole {α : Type} (reader : Reader α) (cs : List Char) : Except Fault α := do
  match ← reader (byteLength cs) (lexemes cs) with
  | (a, []) => return a
  | (_, l :: _) => throw ⟨.trailingCharacters, l.start + 1⟩

/-- Reads a text that holds one value and nothing else. -/
def parse {α : Type} (reader : Reader α) (cs : List Char) : Except Error α :=
  (readWhole reader cs).mapError (·.locate cs)

end Garage.Json

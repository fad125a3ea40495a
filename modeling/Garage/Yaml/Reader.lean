/-
# Reading YAML

A reader takes a node.  The entries of a mapping are read one by one, in whatever order they come;
entries that the shape does not know are passed over.  What is missing in a document is found out
where it is reached, and the fault of the document is reported there; if it is not reached, it is
reported after everything else.
-/
import Garage.Layout.Shape
import Garage.Yaml.Document
import Garage.Yaml.Value

namespace Garage.Yaml

/-- What is known of a document while values are read from it. -/
structure Context where
  /-- The nodes that aliases may stand for. -/
  targets : List Node
  /-- How many aliases may be followed. -/
  limit : Nat
  /-- What is wrong where something is missing. -/
  fault : Error

/-- The first of the targets that has this anchor. -/
def Context.target (k : Context) (anchor : Nat) : Node :=
  (k.targets.find? (·.anchor? = some anchor)).getD .missing

/-- Takes a value from a node; the number says how many aliases were followed so far. -/
abbrev Reader (α : Type) := Context → Path → (jumps : Nat) → Node → Except Error (α × Nat)

/-- The node itself, or the one that it stands for. -/
def Context.resolve (k : Context) (jumps : Nat) (n : Node) : Except Error (Node × Nat) :=
  match n with
  | .reference _ anchor =>
    if k.limit < jumps + 1 then .error .tooManyAliases
    else .ok (k.target anchor, jumps + 1)
  | n => .ok (n, jumps)

/-- The node is not of the kind that is wanted. -/
def wrongKind (k : Context) (wanted : String) (path : Path) (n : Node) : Error :=
  match n with
  | .scalar mark _ tag style text => .mismatch (scalarMismatch wanted tag style text) path mark
  | .sequence mark .. => .mismatch (.wrongKind .sequence wanted) path mark
  | .mapping mark .. => .mismatch (.wrongKind .map wanted) path mark
  | .reference .. | .missing => k.fault

/-- Reads a number of 32 bits. -/
def readWord : Reader UInt32 := fun k path jumps n => do
  let (n, jumps) ← k.resolve jumps n
  match n with
  | .scalar mark _ tag style text =>
    match scalarWord tag style text with
    | .ok w => return (w, jumps)
    | .error m => throw (.mismatch m path mark)
  | n => throw (wrongKind k wordName path n)

/-! ## Lists -/

/-- The items of a list, the first of which has the number `index`. -/
def readItems {α : Type} (item : Reader α) (k : Context) (path : Path) (index jumps : Nat) :
    List Node → Except Error (List α × Nat)
  | [] => .ok ([], jumps)
  | n :: rest => do
    let (a, jumps) ← item k (.item index :: path) jumps n
    let (as', jumps) ← readItems item k path (index + 1) jumps rest
    return (a :: as', jumps)

/-- Reads a list.  Nothing written is an empty list. -/
def readList {α : Type} (item : Reader α) : Reader (List α) := fun k path jumps n => do
  let (n, jumps) ← k.resolve jumps n
  match n with
  | .sequence _ _ items => readItems item k path 0 jumps items
  | .scalar _ _ _ .plain [] => return ([], jumps)
  | n => throw (wrongKind k "a sequence" path n)

/-! ## Records -/

/-- Reads the name of an entry. -/
def readName : Reader (List Char) := fun k path jumps n => do
  let (n, jumps) ← k.resolve jumps n
  match n with
  | .scalar _ _ _ _ text => return (text, jumps)
  | n => throw (wrongKind k "field identifier" path n)

/-- The way to the value of an entry.  Only a name that is written there is known. -/
def entryStep : Node → PathStep
  | .scalar _ _ _ _ text => .key text
  | _ => .unnamed

/-- The value of the entry `name`, which is put into the draft if the shape has such a member.
`start` is the beginning of the record. -/
def readMember {δ α : Type} (shape : Shape Reader δ α) (k : Context) (path : Path) (start : Mark)
    (step : PathStep) (name : List Char) (d : δ) (jumps : Nat) (value : Node) :
    Except Error (δ × Nat) :=
  match shape.field? (String.ofList name) with
  | none => if value.extent.isCut then .error k.fault else .ok (d, jumps)
  | some f =>
    if f.isSet d then .error (.mismatch (.duplicateField f.name) path start)
    else do
      let (b, jumps) ← f.value k (step :: path) jumps value
      return (f.set b d, jumps)

/-- The entries of a record. -/
def readMembers {δ α : Type} (shape : Shape Reader δ α) (k : Context) (path : Path)
    (start : Mark) (d : δ) (jumps : Nat) : List (Node × Node) → Except Error (δ × Nat)
  | [] => .ok (d, jumps)
  | (key, value) :: rest => do
    let (name, jumps) ← readName k path jumps key
    let (d, jumps) ← readMember shape k path start (entryStep key) name d jumps value
    readMembers shape k path start d jumps rest

/-- Reads a record.  Nothing written is a record without entries. -/
def readRecord {δ α : Type} (shape : Shape Reader δ α) : Reader α := fun k path jumps n => do
  let (n, jumps) ← k.resolve jumps n
  let read (start : Mark) (entries : List (Node × Node)) : Except Error (α × Nat) := do
    let (d, jumps) ← readMembers shape k path start shape.start jumps entries
    match shape.finish d with
    | .ok a => return (a, jumps)
    | .error name => throw (.mismatch (.missingField name) path start)
  match n with
  | .mapping start _ entries => read start entries
  | .scalar start _ _ .plain [] => read start []
  | n => throw (wrongKind k shape.title path n)

def format : Format Reader := ⟨readWord, readList, readRecord⟩

/-! ## Texts -/

/-- How many bytes come before the first character that may not stand in a text, if there is
one. -/
def controlCharacter? (offset : Nat) : List Char → Option Nat
  | [] => none
  | c :: rest =>
    if isAllowed c then controlCharacter? (offset + c.utf8Size) rest else some offset

/-- What is known of a document: a hundred aliases may be followed for each of its events.  If it
has no fault, nothing is missing in it. -/
def Document.context (d : Document) : Context :=
  ⟨d.root.anchored, 100 * d.root.extent.events, d.fault.getD .severalDocuments⟩

/-- The value of a document. -/
def Document.read {α : Type} (reader : Reader α) (d : Document) : Except Error α := do
  let (a, _) ← reader d.context [] 0 d.root
  match d.fault with
  | some e => throw e
  | none => if d.hasMore then throw .severalDocuments else return a

/-- Reads a text that holds one document and nothing else. -/
def parse {α : Type} (reader : Reader α) (cs : List Char) : Except Error α :=
  match controlCharacter? 0 cs with
  | some offset => .error (.controlCharacter offset)
  | none => (Document.ofLexed (tokenize cs)).read reader

end Garage.Yaml

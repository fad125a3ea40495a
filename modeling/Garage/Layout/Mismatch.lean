/-
# Well-formed text that is no layout

What can be wrong with a text that follows the rules of its format: a member is missing or there
twice, or a value is not of the kind that is wanted.
-/
import Garage.Text.Quoted

namespace Garage

/-- A value that was found in a text. -/
inductive Found
  | integer (n : Int)
  /-- A number with a fraction or an exponent, in its own format's spelling. -/
  | real (spelling : List Char)
  | truth (b : Bool)
  | text (cs : List Char)
  /-- No value at all, under the name that the format has for it. -/
  | nothing (name : String)
  | sequence
  | map
deriving DecidableEq, Repr

/-- The value in a message.  An integer that does not fit into 64 bits is marked. -/
def Found.message : Found → String
  | integer n =>
    let width :=
      if UInt64.size ≤ n then " as u128" else if n < Int64.minValue.toInt then " as i128" else ""
    s!"integer `{n}`{width}"
  | real spelling => s!"floating point `{String.ofList spelling}`"
  | truth b => s!"boolean `{b}`"
  | text cs => s!"string {String.ofList (Text.quoted cs)}"
  | nothing name => name
  | sequence => "sequence"
  | map => "map"

/-- Why a value could not be read. -/
inductive Mismatch
  | missingField (name : String)
  | duplicateField (name : String)
  /-- The value is of the wrong kind. -/
  | wrongKind (found : Found) (wanted : String)
  /-- The value is of the right kind, and still not one that is wanted. -/
  | wrongValue (found : Found) (wanted : String)
  /-- A record written as a list ends too early. -/
  | wrongLength (length : Nat) (wanted : String)
deriving DecidableEq, Repr

def Mismatch.message : Mismatch → String
  | missingField name => s!"missing field `{name}`"
  | duplicateField name => s!"duplicate field `{name}`"
  | wrongKind found wanted => s!"invalid type: {found.message}, expected {wanted}"
  | wrongValue found wanted => s!"invalid value: {found.message}, expected {wanted}"
  | wrongLength length wanted => s!"invalid length {length}, expected {wanted}"

/-- How a number of 32 bits is called in messages. -/
def wordName : String := "u32"

/-- A number of 32 bits. -/
def wordOfNat (n : Nat) : Except Mismatch UInt32 :=
  if n < UInt32.size then .ok (UInt32.ofNat n)
  else .error (.wrongValue (.integer n) wordName)

end Garage

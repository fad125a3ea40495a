/-
# Passing over values

The value of a member that nobody asks for is passed over lexeme by lexeme, however deep it is:
all that has to be remembered is which lists and objects are open, and what may come next.
-/
import Garage.Json.Lexeme

namespace Garage.Json

/-- Something that is open. -/
inductive Frame
  | list
  | object
deriving DecidableEq, Repr

/-- What may come next in the innermost list or object. -/
inductive Next
  /-- A value. -/
  | value
  /-- The first item or name, or the end. -/
  | first
  /-- A name. -/
  | name
  /-- The colon after a name. -/
  | colon
  /-- A comma, or the end. -/
  | comma
deriving DecidableEq, Repr

/-- What is wrong when the text is over. -/
def Next.endProblem : Next → List Frame → Problem
  | .value, _ => .valueEnds
  | _, .list :: _ => .listEnds
  | _, .object :: _ => .objectEnds
  | _, [] => .valueEnds

/-- What comes after a comma or an opening bracket. -/
def Frame.item : Frame → Next
  | .list => .value
  | .object => .name

/-- The end of the innermost list or object. -/
def Frame.close : Frame → Mark
  | .list => .closeList
  | .object => .closeObject

def Frame.commaProblem : Frame → Problem
  | .list => .listCommaExpected
  | .object => .objectCommaExpected

/-- Where the passing over stands. -/
abbrev SkipState := Next × List Frame

/-- A lexeme where a value is wanted. -/
def skipValueStart (stack : List Frame) (l : Lexeme) : Except Fault SkipState :=
  match l.kind with
  | .mark .openList => .ok (.first, .list :: stack)
  | .mark .openObject => .ok (.first, .object :: stack)
  | .mark _ | .stray => .error ⟨.valueExpected, l.start + 1⟩
  | .broken _ _ unwanted => .error unwanted
  | .null | .truth _ | .number _ | .text _ => .ok (.comma, stack)

/-- A lexeme where a name is wanted. -/
def skipName (stack : List Frame) (l : Lexeme) : Except Fault SkipState :=
  match l.kind with
  | .text _ => .ok (.colon, stack)
  | .broken true _ unwanted => .error unwanted
  | _ => .error ⟨.textKeyExpected, l.start + 1⟩

/-- Whether a lexeme is this mark. -/
def Lexeme.isMark (l : Lexeme) (m : Mark) : Bool :=
  match l.kind with
  | .mark n => m = n
  | _ => false

/-- One lexeme. -/
def skipStep (next : Next) (stack : List Frame) (l : Lexeme) : Except Fault SkipState :=
  match next, stack with
  | .value, _ => skipValueStart stack l
  | .name, _ => skipName stack l
  | .colon, _ =>
    if l.isMark .colon then .ok (.value, stack) else .error ⟨.colonExpected, l.start + 1⟩
  | .first, frame :: outer =>
    if l.isMark frame.close then .ok (.comma, outer)
    else
      match frame with
      | .list => skipValueStart stack l
      | .object => skipName stack l
  | .comma, frame :: outer =>
    if l.isMark frame.close then .ok (.comma, outer)
    else if l.isMark .comma then .ok (frame.item, stack)
    else .error ⟨frame.commaProblem, l.start + 1⟩
  | _, [] => .ok (.comma, [])

/-- Passes over lexemes until nothing is open.  The text has `size` bytes. -/
def skip (size : Nat) : Next → List Frame → List Lexeme → Except Fault (List Lexeme)
  | .comma, [], ls => .ok ls
  | next, stack, [] => .error ⟨next.endProblem stack, size⟩
  | next, stack, l :: ls =>
    match skipStep next stack l with
    | .ok (next', stack') => skip size next' stack' ls
    | .error f => .error f

/-- What follows the value at the beginning of the lexemes. -/
def skipValue (size : Nat) (ls : List Lexeme) : Except Fault (List Lexeme) :=
  skip size .value [] ls

end Garage.Json

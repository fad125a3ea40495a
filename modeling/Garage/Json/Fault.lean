/-
# What can be wrong with JSON text

A fault is a problem at an offset, which counts the bytes of the text that were looked at before
the problem was noticed.  To the reader of a message, an offset is a line, counted from one, and
the bytes of that line up to the offset.
-/
import Garage.Layout.Mismatch

namespace Garage.Json

/-- A way in which a text is not the JSON that is wanted. -/
inductive Problem
  | valueEnds
  | listEnds
  | objectEnds
  | textEnds
  | valueExpected
  | listCommaExpected
  | objectCommaExpected
  | colonExpected
  | wordExpected
  | textKeyExpected
  | trailingComma
  | trailingCharacters
  | invalidNumber
  | numberOutOfRange
  | invalidEscape
  /-- The first half of a surrogate pair has no second half. -/
  | secondHalfExpected
  /-- A half of a surrogate pair stands where a first half should. -/
  | loneHalf
  | controlCharacter
  /-- The text is JSON, but not what is wanted. -/
  | mismatch (m : Mismatch)
deriving DecidableEq, Repr

def Problem.message : Problem → String
  | valueEnds => "EOF while parsing a value"
  | listEnds => "EOF while parsing a list"
  | objectEnds => "EOF while parsing an object"
  | textEnds => "EOF while parsing a string"
  | valueExpected => "expected value"
  | listCommaExpected => "expected `,` or `]`"
  | objectCommaExpected => "expected `,` or `\x7d`"
  | colonExpected => "expected `:`"
  | wordExpected => "expected ident"
  | textKeyExpected => "key must be a string"
  | trailingComma => "trailing comma"
  | trailingCharacters => "trailing characters"
  | invalidNumber => "invalid number"
  | numberOutOfRange => "number out of range"
  | invalidEscape => "invalid escape"
  | secondHalfExpected => "unexpected end of hex escape"
  | loneHalf => "lone leading surrogate in hex escape"
  | controlCharacter => "control character (\\u0000-\\u001F) found while parsing a string"
  | mismatch m => m.message

/-- A problem and where it was noticed. -/
structure Fault where
  problem : Problem
  offset : Nat
deriving DecidableEq, Repr

/-- The line and the column of the byte at an offset, if the text before `cs` ends in this line
and column. -/
def positionFrom (line column : Nat) (offset : Nat) : List Char → Nat × Nat
  | [] => (line, column + offset)
  | c :: rest =>
    if offset < c.utf8Size then (line, column + offset)
    else if c = '\n' then positionFrom (line + 1) 0 (offset - 1) rest
    else positionFrom line (column + c.utf8Size) (offset - c.utf8Size) rest

/-- A problem and the line and column where it was noticed. -/
structure Error where
  problem : Problem
  line : Nat
  column : Nat
deriving DecidableEq, Repr

/-- The fault with its line and column in the text `cs`. -/
def Fault.locate (f : Fault) (cs : List Char) : Error :=
  let (line, column) := positionFrom 1 0 f.offset cs
  ⟨f.problem, line, column⟩

def Error.message (e : Error) : String :=
  s!"{e.problem.message} at line {e.line} column {e.column}"

/-- The number of bytes of a text. -/
def byteLength (cs : List Char) : Nat := cs.foldr (·.utf8Size + ·) 0

end Garage.Json

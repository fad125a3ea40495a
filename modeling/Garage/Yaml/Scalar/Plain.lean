/-
# Plain scalars

A plain scalar is written without quotes.  It goes on over blanks and line breaks, but ends
before a colon with a blank behind it, before a comment, before a line that is not indented far
enough, and inside brackets before a comma or a bracket.
-/
import Garage.Yaml.Error
import Garage.Yaml.Scalar.Gap

namespace Garage.Yaml

/-- A plain scalar that was scanned. -/
structure PlainScalar where
  text : List Char
  /-- The end of its last word. -/
  stop : Mark
  /-- What follows, behind the gap after the last word. -/
  next : Cursor
  /-- Whether there is a line break in that gap. -/
  isBroken : Bool
deriving DecidableEq, Repr

/-- What plain scalars are scanned under. -/
structure PlainContext where
  /-- Whether the scalar stands inside brackets. -/
  inFlow : Bool
  /-- The column that every line of the scalar has to reach. -/
  column : Nat
  start : Mark

/-- The marks that end a plain scalar inside brackets. -/
def isFlowMark (c : Char) : Bool := ",[]\x7b\x7d".toList.contains c

namespace PlainContext

/-- Whether the word that would be next belongs to the scalar no more. -/
def endsBefore (k : PlainContext) (mark : Mark) (cs : List Char) : Bool :=
  (!k.inFlow && mark.column < k.column) || (mark.column = 0 && atDocumentMark cs)
    || cs.head? = some '#'

/-- Whether a scalar ends before `c`, which is followed by `rest`. -/
def endsAt (k : PlainContext) (c : Char) (rest : List Char) : Bool :=
  (c = ':' && atBlankOrEnd rest) || (k.inFlow && isFlowMark c)

/-- Inside brackets, a colon must not be followed by a mark at once. -/
def isStrayColon (k : PlainContext) (c : Char) (rest : List Char) : Bool :=
  k.inFlow && c = ':' && rest.head?.any fun x => isFlowMark x || x = '?'

/-- Scans the rest of a plain scalar; its last word ended at `stop`, and the gap since then
reaches up to `mark`. -/
def scan (k : PlainContext) (gap : Gap) (mark stop : Mark) :
    List Char → Except Malformed PlainScalar
  | [] => .ok ⟨[], stop, ⟨mark, []⟩, gap.isBroken⟩
  | c :: rest =>
    if isBlank c then
      if gap.isBroken && mark.column < k.column && c = '\t' then
        .error ⟨.tabInIndent, mark, some (.plainText, k.start)⟩
      else k.scan (gap.addBlank c) (mark.advance 1) stop rest
    else if isBreak c then
      match c, rest with
      | '\r', '\n' :: rest => k.scan (gap.addBreak '\n') (mark.nextLine 2) stop rest
      | c, rest => k.scan (gap.addBreak c) (mark.nextLine c.utf8Size) stop rest
    else if gap ≠ .none ∧ k.endsBefore mark (c :: rest) then
      .ok ⟨[], stop, ⟨mark, c :: rest⟩, gap.isBroken⟩
    else if k.isStrayColon c rest then
      .error ⟨.colonInPlainText, mark, some (.plainText, k.start)⟩
    else if k.endsAt c rest then .ok ⟨[], stop, ⟨mark, c :: rest⟩, gap.isBroken⟩
    else
      (k.scan .none (mark.pass c) (mark.pass c) rest).map fun s =>
        { s with text := gap.text ++ c :: s.text }

end PlainContext

/-- A plain scalar that begins at the cursor; its lines have to reach `column`. -/
def scanPlain (inFlow : Bool) (column : Nat) (c : Cursor) : Except Malformed PlainScalar :=
  (PlainContext.mk inFlow column c.mark).scan .none c.mark c.mark c.rest

end Garage.Yaml

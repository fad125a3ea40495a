/-
# Block scalars

A block scalar has lines of its own, which are indented further than what it belongs to.  The
first line says whether line breaks are kept or folded, what becomes of the line breaks at the
end, and perhaps how far the lines are indented; otherwise the first line with text shows it.
-/
import Garage.Yaml.Error

namespace Garage.Yaml

/-- What becomes of the line breaks at the end of a block scalar. -/
inductive Chomping
  /-- One line break is kept. -/
  | clip
  | strip
  | keep
deriving DecidableEq, Repr

/-- The first line of a block scalar. -/
structure BlockHeader where
  chomping : Chomping
  /-- How much further the lines are indented, or zero if that is not said. -/
  increment : Nat
deriving DecidableEq, Repr

def Chomping.ofChar? : Char → Option Chomping
  | '+' => some .keep
  | '-' => some .strip
  | _ => none

/-- A fault in the block scalar that begins at `start`. -/
def blockFault (start : Mark) (p : Problem) (mark : Mark) : Malformed :=
  ⟨p, mark, some (.blockText, start)⟩

/-- The chomping sign at a cursor, if there is one. -/
def scanChomping (c : Cursor) : Option (Chomping × Cursor) := do
  return (← Chomping.ofChar? (← c.rest.head?), c.advance 1)

/-- The increment at a cursor; zero if there is none. -/
def scanIncrement (start : Mark) (c : Cursor) : Except Malformed (Nat × Cursor) :=
  match c.rest with
  | d :: _ =>
    if d = '0' then .error (blockFault start .zeroIndent c.mark)
    else if d.isDigit then .ok (d.toNat - '0'.toNat, c.advance 1)
    else .ok (0, c)
  | [] => .ok (0, c)

/-- The signs of the first line, in either order. -/
def scanBlockSigns (start : Mark) (c : Cursor) : Except Malformed (BlockHeader × Cursor) := do
  match scanChomping c with
  | some (chomping, c) =>
    let (increment, c) ← scanIncrement start c
    return (⟨chomping, increment⟩, c)
  | none =>
    let (increment, c) ← scanIncrement start c
    match if increment = 0 then none else scanChomping c with
    | some (chomping, c) => return (⟨chomping, increment⟩, c)
    | none => return (⟨.clip, increment⟩, c)

/-- The first line, behind the sign that begins the scalar. -/
def scanBlockHeader (start : Mark) (c : Cursor) : Except Malformed (BlockHeader × Cursor) := do
  let (header, c) ← scanBlockSigns start c
  let c := (c.skipWhile isBlank).skipComment
  if atBreakOrEnd c.rest then return (header, c.skipBreak)
  else throw (blockFault start .lineEndExpected c.mark)

/-- Empty lines and the indentation of the next line.  As long as the indentation is not known,
it is given as zero; `widest` is the widest that was met.  Every line has a character at least,
so the length of the text is fuel enough. -/
def scanBlockBreaks (start : Mark) (indent : Nat) :
    (fuel widest : Nat) → Cursor → Except Malformed (List Char × Nat × Cursor)
  | 0, widest, c => .ok ([], widest, c)
  | fuel + 1, widest, c => do
    let spaces := (c.takeWhile (· = ' ')).length
    let c := c.advance (if indent = 0 then spaces else min spaces (indent - c.mark.column))
    let widest := max widest c.mark.column
    if (indent = 0 ∨ c.mark.column < indent) ∧ c.isAt '\t' then
      throw (blockFault start .tabAsIndent c.mark)
    if c.rest.head?.any isBreak then
      let (breaks, widest, next) ← scanBlockBreaks start indent fuel widest c.skipBreak
      return (c.breakText ++ breaks, widest, next)
    else return ([], widest, c)

/-- The text of the lines and, apart from it, the line breaks at the end: the one that ends the
last line, and those of empty lines. -/
structure BlockLines where
  text : List Char
  lead : List Char
  trail : List Char
  next : Cursor

/-- The lines of a block scalar.  Before the line at the cursor there are the line break `lead` and
empty lines `trail`; `spaced` says whether the line before began with a blank. -/
def scanBlockLines (literal : Bool) (start : Mark) (indent : Nat) :
    (fuel : Nat) → (spaced : Bool) → (lead trail : List Char) → Cursor →
      Except Malformed BlockLines
  | 0, _, lead, trail, c => .ok ⟨[], lead, trail, c⟩
  | fuel + 1, spaced, lead, trail, c => do
    if c.mark.column = indent ∧ ¬ c.rest.isEmpty then
      let blank := c.rest.head?.any isBlank
      let joined :=
        if ¬ literal ∧ lead.head? = some '\n' ∧ ¬ spaced ∧ ¬ blank then
          if trail.isEmpty then [' '] else trail
        else lead ++ trail
      let line := c.takeWhile (!isBreak ·)
      let after := c.advance line.length
      let (trail, _, next) ←
        scanBlockBreaks start indent after.rest.length 0 after.skipBreak
      let lines ← scanBlockLines literal start indent fuel blank after.breakText trail next
      return { lines with text := joined ++ line ++ lines.text }
    else return ⟨[], lead, trail, c⟩

/-- A block scalar whose sign is at the cursor; `column` is the least indentation that its lines
may have. -/
def scanBlock (literal : Bool) (column : Nat) (c : Cursor) :
    Except Malformed (List Char × Cursor) := do
  let start := c.mark
  let (header, c) ← scanBlockHeader start (c.advance 1)
  let given := if header.increment = 0 then 0 else column - 1 + header.increment
  let (trail, widest, c) ← scanBlockBreaks start given (c.rest.length + 1) 0 c
  let indent := if given = 0 then max (max widest column) 1 else given
  let lines ← scanBlockLines literal start indent (c.rest.length + 1) false [] trail c
  let ending :=
    match header.chomping with
    | .clip => lines.lead
    | .strip => []
    | .keep => lines.lead ++ lines.trail
  return (lines.text ++ ending, lines.next)

end Garage.Yaml

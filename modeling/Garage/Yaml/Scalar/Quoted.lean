/-
# Quoted scalars

Between single quotes, all characters stand for themselves, and a quote is written twice.
Between double quotes there are escapes, also for line breaks.  Lines are folded in both.
-/
import Garage.Text.Digits
import Garage.Yaml.Error
import Garage.Yaml.Scalar.Gap

namespace Garage.Yaml

/-- The character that a letter after a backslash stands for. -/
def simpleEscape? : Char → Option Char
  | '0' => some '\x00'
  | 'a' => some '\x07'
  | 'b' => some '\x08'
  | 't' => some '\t'
  | '\t' => some '\t'
  | 'n' => some '\n'
  | 'v' => some '\x0b'
  | 'f' => some '\x0c'
  | 'r' => some '\r'
  | 'e' => some '\x1b'
  | ' ' => some ' '
  | '"' => some '"'
  | '/' => some '/'
  | '\\' => some '\\'
  | 'N' => some '\x85'
  | '_' => some '\xa0'
  | 'L' => some '\u2028'
  | 'P' => some '\u2029'
  | _ => none

/-- The character with the code point that digits give in base sixteen. -/
def codePoint (digits : List Char) : Except Problem Char :=
  match Text.number? 16 digits with
  | none => .error .hexExpected
  | some n => if n.isValidChar then .ok (Char.ofNat n) else .error .invalidCodePoint

/-- What quoted scalars are scanned under. -/
structure QuotedContext where
  quote : Char
  start : Mark

/-- A text and what follows the quote at its end. -/
abbrev Quoted := List Char × Cursor

namespace QuotedContext

/-- Whether there are escapes between these quotes. -/
def hasEscapes (k : QuotedContext) : Bool := k.quote = '"'

def fault (k : QuotedContext) (p : Problem) (mark : Mark) : Malformed :=
  ⟨p, mark, some (.quotedText, k.start)⟩

def escapeFault (k : QuotedContext) (p : Problem) (mark : Mark) : Malformed :=
  ⟨p, mark, some (.quotedEscape, k.start)⟩

/-- Scans the rest of a quoted scalar; since its last word there is a gap up to `mark`. -/
def scan (k : QuotedContext) (gap : Gap) (mark : Mark) : List Char → Except Malformed Quoted
  | [] => .error (k.fault .textEnds mark)
  | c :: rest =>
    let before (cs : List Char) (r : Quoted) : Quoted := (gap.text ++ cs ++ r.1, r.2)
    let closed : Except Malformed Quoted := .ok (gap.text, ⟨mark.advance 1, rest⟩)
    if isBlank c then k.scan (gap.addBlank c) (mark.advance 1) rest
    else if isBreak c then
      match c, rest with
      | '\r', '\n' :: rest => k.scan (gap.addBreak '\n') (mark.nextLine 2) rest
      | c, rest => k.scan (gap.addBreak c) (mark.nextLine c.utf8Size) rest
    else if mark.column = 0 ∧ atDocumentMark (c :: rest) then
      .error (k.fault .documentMarkInText mark)
    else if c = k.quote then
      if k.hasEscapes then closed
      else
        match rest with
        | '\'' :: rest => (k.scan .none (mark.advance 2) rest).map (before ['\''])
        | _ => closed
    else if k.hasEscapes ∧ c = '\\' then
      match rest with
      | [] => .error (k.escapeFault .unknownEscape mark)
      | e :: rest =>
        if isBreak e then
          match e, rest with
          | '\r', '\n' :: rest =>
            (k.scan (.breaks [] []) ((mark.advance 1).nextLine 2) rest).map (before [])
          | e, rest =>
            (k.scan (.breaks [] []) ((mark.advance 1).nextLine e.utf8Size) rest).map (before [])
        else
          match simpleEscape? e with
          | some x => (k.scan .none (mark.advance 2) rest).map (before [x])
          | none =>
            match e, rest with
            | 'x', a :: b :: rest =>
              match codePoint [a, b] with
              | .ok x => (k.scan .none (mark.advance 4) rest).map (before [x])
              | .error p => .error (k.escapeFault p (mark.advance 2))
            | 'u', a :: b :: c :: d :: rest =>
              match codePoint [a, b, c, d] with
              | .ok x => (k.scan .none (mark.advance 6) rest).map (before [x])
              | .error p => .error (k.escapeFault p (mark.advance 2))
            | 'U', a :: b :: c :: d :: e :: f :: g :: h :: rest =>
              match codePoint [a, b, c, d, e, f, g, h] with
              | .ok x => (k.scan .none (mark.advance 10) rest).map (before [x])
              | .error p => .error (k.escapeFault p (mark.advance 2))
            | e, _ =>
              if e = 'x' ∨ e = 'u' ∨ e = 'U' then
                .error (k.escapeFault .hexExpected (mark.advance 2))
              else .error (k.escapeFault .unknownEscape mark)
    else (k.scan .none (mark.pass c) rest).map (before [c])

end QuotedContext

/-- A quoted scalar whose first quote is at the cursor. -/
def scanQuoted (quote : Char) (c : Cursor) : Except Malformed Quoted :=
  (QuotedContext.mk quote c.mark).scan .none (c.mark.advance 1) (c.rest.drop 1)

end Garage.Yaml

/-
# Directives

A directive is a line that begins with a percent sign.  One gives the version of YAML, the other
says what a tag handle stands for.
-/
import Garage.Yaml.Tag
import Garage.Yaml.Token

namespace Garage.Yaml

/-- What directives are scanned under: where the directive begins. -/
structure DirectiveContext where
  start : Mark

namespace DirectiveContext

def fault (k : DirectiveContext) (activity : Activity) (p : Problem) (c : Cursor) : Malformed :=
  ⟨p, c.mark, some (activity, k.start)⟩

/-- The name of a directive. -/
def scanName (k : DirectiveContext) (c : Cursor) : Except Malformed (List Char × Cursor) :=
  let name := c.takeWhile isNameChar
  let next := c.advance name.length
  if name.isEmpty then .error (k.fault .directive .directiveNameExpected next)
  else if atBlankOrEnd next.rest then .ok (name, next)
  else .error (k.fault .directive .strangeDirectiveName next)

/-- A number of at most nine digits. -/
def scanNumber (k : DirectiveContext) (c : Cursor) : Except Malformed (Nat × Cursor) :=
  let digits := c.takeWhile Char.isDigit
  if 9 < digits.length then .error (k.fault .versionDirective .versionTooLong (c.advance 9))
  else
    match Text.number? 10 digits with
    | none => .error (k.fault .versionDirective .versionExpected c)
    | some n => .ok (n, c.advance digits.length)

/-- The two numbers of a version. -/
def scanVersion (k : DirectiveContext) (c : Cursor) : Except Malformed (TokenKind × Cursor) := do
  let (major, c) ← k.scanNumber (c.skipWhile isBlank)
  if ¬ c.isAt '.' then throw (k.fault .versionDirective .versionDotExpected c)
  let (minor, c) ← k.scanNumber (c.advance 1)
  return (.version major minor, c)

/-- A tag handle and what it stands for. -/
def scanTagHandle (k : DirectiveContext) (c : Cursor) :
    Except Malformed (TokenKind × Cursor) := do
  let c := c.skipWhile isBlank
  if ¬ c.isAt '!' then throw (k.fault .tagDirectiveHandle .exclamationExpected c)
  let (handle, c) := scanHandle c
  if ¬ isWholeHandle handle ∧ handle ≠ ['!'] then
    throw (k.fault .tagDirectiveStart .exclamationExpected c)
  if ¬ c.rest.head?.any isBlank then throw (k.fault .tagDirectiveScan .blankExpected c)
  let (uri, c) ← (UriContext.mk true .tagDirective k.start).scan [] (c.skipWhile isBlank)
  if ¬ atBlankOrEnd c.rest then throw (k.fault .tagDirectiveScan .blankOrBreakExpected c)
  return (.tagHandle handle uri, c)

/-- What a directive says, behind its percent sign. -/
def scanContent (k : DirectiveContext) (c : Cursor) : Except Malformed (TokenKind × Cursor) := do
  let (name, c) ← k.scanName c
  if name = "YAML".toList then k.scanVersion c
  else if name = "TAG".toList then k.scanTagHandle c
  else throw (k.fault .directive .unknownDirective c)

end DirectiveContext

/-- The directive at the cursor: what it says, where it ends, and what follows its line. -/
def scanDirective (c : Cursor) : Except Malformed (TokenKind × Mark × Cursor) := do
  let k : DirectiveContext := ⟨c.mark⟩
  let (kind, next) ← k.scanContent (c.advance 1)
  let rest := (next.skipWhile isBlank).skipComment
  if ¬ atBreakOrEnd rest.rest then throw (k.fault .directive .lineEndExpected rest)
  return (kind, next.mark, rest.skipBreak)

end Garage.Yaml

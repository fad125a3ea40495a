/-
# Places in YAML text

A mark is a place in a text: how many bytes of UTF-8 stand before it, and its line and column, all
counted from zero.  Columns count characters.  A cursor is a mark together with the text that
follows it.
-/

namespace Garage.Yaml

/-- A place in a text. -/
structure Mark where
  /-- How many bytes stand before it. -/
  index : Nat
  line : Nat
  column : Nat
deriving DecidableEq, Repr

namespace Mark

/-- The beginning of a text. -/
def origin : Mark := ⟨0, 0, 0⟩

/-- The place behind a character that ends no line. -/
def pass (m : Mark) (c : Char) : Mark := ⟨m.index + c.utf8Size, m.line, m.column + 1⟩

/-- The place `n` characters of ASCII further on in the same line. -/
def advance (m : Mark) (n : Nat) : Mark := ⟨m.index + n, m.line, m.column + n⟩

/-- The beginning of the next line, behind a line break of `n` bytes. -/
def nextLine (m : Mark) (n : Nat) : Mark := ⟨m.index + n, m.line + 1, 0⟩

/-- Whether two places have the same line and column. -/
def sameAs (m n : Mark) : Bool := m.line = n.line && m.column = n.column

/-- The place in a message; nothing is said about the beginning of a text. -/
def text (m : Mark) : String :=
  if m.sameAs origin then "" else s!" at line {m.line + 1} column {m.column + 1}"

end Mark

/-! ## Classes of characters -/

def isBlank (c : Char) : Bool := c = ' ' || c = '\t'

/-- The characters that end a line. -/
def isBreak (c : Char) : Bool :=
  c = '\n' || c = '\r' || c = '\x85' || c = '\u2028' || c = '\u2029'

/-- Whether a text is over or begins with a character of a class. -/
def endsOr (p : Char → Bool) (cs : List Char) : Bool := cs.head?.all p

/-- A blank, a line break or the end of the text. -/
def atBlankOrEnd (cs : List Char) : Bool := endsOr (fun c => isBlank c || isBreak c) cs

/-- A line break or the end of the text. -/
def atBreakOrEnd (cs : List Char) : Bool := endsOr isBreak cs

/-- Letters and digits of ASCII, the underscore and the hyphen: the characters of names. -/
def isNameChar (c : Char) : Bool := c.isAlphanum || c = '_' || c = '-'

/-- The characters that stand for themselves in tags. -/
def isTagChar (c : Char) : Bool := isNameChar c || ";/?:@&=+$.%!~*'()".toList.contains c

/-- Three hyphens or three dots, and a blank or nothing behind them: a line that ends or begins a
document. -/
def atDocumentMark (cs : List Char) : Bool :=
  match cs with
  | a :: b :: c :: rest =>
    a = b && b = c && (a = '-' || a = '.') && atBlankOrEnd rest
  | _ => false

/-- Characters that may stand in a text at all. -/
def isAllowed (c : Char) : Bool :=
  let n := c.toNat
  c = '\t' || c = '\n' || c = '\r' || (0x20 ≤ n && n ≤ 0x7E) || n = 0x85
    || (0xA0 ≤ n && n ≤ 0xD7FF) || (0xE000 ≤ n && n ≤ 0xFFFD) || 0x10000 ≤ n

/-- The character that a line break counts as inside a text: most count as a line feed. -/
def breakChar (c : Char) : Char := if c = '\u2028' || c = '\u2029' then c else '\n'

/-! ## Cursors -/

/-- A place in a text and what follows it. -/
structure Cursor where
  mark : Mark
  rest : List Char
deriving DecidableEq, Repr

namespace Cursor

/-- The beginning of a text. -/
def ofText (cs : List Char) : Cursor := ⟨.origin, cs⟩

/-- Whether a character follows. -/
def isAt (c : Cursor) (x : Char) : Bool := c.rest.head? = some x

/-- Passes over `n` characters, none of which is a line break. -/
def advance (c : Cursor) (n : Nat) : Cursor :=
  ⟨(c.rest.take n).foldl Mark.pass c.mark, c.rest.drop n⟩

/-- The characters of a class that follow. -/
def takeWhile (c : Cursor) (p : Char → Bool) : List Char := c.rest.takeWhile p

/-- Passes over the characters of a class, to which no line break belongs. -/
def skipWhile (c : Cursor) (p : Char → Bool) : Cursor := c.advance (c.takeWhile p).length

/-- Passes over a comment, if one follows. -/
def skipComment (c : Cursor) : Cursor :=
  if c.isAt '#' then c.skipWhile (!isBreak ·) else c

/-- Passes over one line break, if one follows. -/
def skipBreak (c : Cursor) : Cursor :=
  match c.rest with
  | '\r' :: '\n' :: rest => ⟨c.mark.nextLine 2, rest⟩
  | x :: rest => if isBreak x then ⟨c.mark.nextLine x.utf8Size, rest⟩ else c
  | [] => c

/-- The line break that follows, as it counts inside a text. -/
def breakText (c : Cursor) : List Char :=
  match c.rest with
  | x :: _ => if isBreak x then [breakChar x] else []
  | [] => []

end Cursor

end Garage.Yaml

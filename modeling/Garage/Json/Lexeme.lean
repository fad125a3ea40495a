/-
# The lexemes of JSON text

A text is first cut into lexemes: marks such as brackets and commas, words, numbers and quoted
texts, without the blanks between them.  A lexeme knows where it begins and where it ends.

Values that nobody asks for are read with less care than others: in a quoted text, surrogates
need not come in pairs, and a number may be as large as it likes.  So a lexeme says separately
what is wrong with it when its value is wanted and when it is only to be passed over.  Nothing
can be read behind a lexeme that cannot even be passed over, and the cutting ends there.
-/
import Garage.Json.Number
import Garage.Text.Digits

namespace Garage.Json

/-- The characters that give JSON its structure. -/
inductive Mark
  | openList
  | closeList
  | openObject
  | closeObject
  | colon
  | comma
deriving DecidableEq, Repr

inductive Kind
  | mark (m : Mark)
  | null
  | truth (b : Bool)
  | number (value : Except Fault Number)
  | text (value : Except Fault (List Char))
  /-- A value that cannot be passed over: what is wrong with it when it is wanted, and when it is
  not. -/
  | broken (isText : Bool) (wanted unwanted : Fault)
  /-- A character that no value begins with. -/
  | stray

structure Lexeme where
  kind : Kind
  /-- The offset of the first byte. -/
  start : Nat
  /-- The offset after the last byte. -/
  stop : Nat

def isBlank (c : Char) : Bool := c = ' ' || c = '\n' || c = '\t' || c = '\r'

def Mark.ofChar? : Char → Option Mark
  | '[' => some .openList
  | ']' => some .closeList
  | '{' => some .openObject
  | '}' => some .closeObject
  | ':' => some .colon
  | ',' => some .comma
  | _ => none

/-! ## Quoted text -/

/-- The character that a letter after a backslash stands for. -/
def simpleEscape? : Char → Option Char
  | '"' => some '"'
  | '\\' => some '\\'
  | '/' => some '/'
  | 'b' => some '\x08'
  | 'f' => some '\x0c'
  | 'n' => some '\n'
  | 'r' => some '\r'
  | 't' => some '\t'
  | _ => none

/-- The number that four characters make in base sixteen. -/
def hexQuad? (a b c d : Char) : Option Nat := Text.number? 16 [a, b, c, d]

/-- What is wrong where four characters in base sixteen are wanted, and `cs` is there. -/
def hexFault (offset : Nat) (cs : List Char) : Fault :=
  if byteLength (cs.take 4) < 4 then ⟨.textEnds, offset + byteLength (cs.take 4)⟩
  else ⟨.invalidEscape, offset + 4⟩

def isFirstHalf (n : Nat) : Bool := 0xD800 ≤ n && n < 0xDC00
def isSecondHalf (n : Nat) : Bool := 0xDC00 ≤ n && n < 0xE000

/-- The code point of a surrogate pair. -/
def joinHalves (first second : Nat) : Nat :=
  (first - 0xD800) * 0x400 + (second - 0xDC00) + 0x10000

/-- Passes over a quoted text after its first quote: the offset after it, and what follows. -/
def skipText (offset : Nat) : List Char → Except Fault (Nat × List Char)
  | [] => .error ⟨.textEnds, offset⟩
  | c :: rest =>
    if c = '"' then .ok (offset + 1, rest)
    else if c = '\\' then
      match rest with
      | [] => .error ⟨.textEnds, offset + 1⟩
      | e :: rest =>
        if e = 'u' then
          match rest with
          | a :: b :: c :: d :: rest =>
            if (hexQuad? a b c d).isSome then skipText (offset + 6) rest
            else .error (hexFault (offset + 2) [a, b, c, d])
          | short => .error (hexFault (offset + 2) short)
        else if (simpleEscape? e).isSome then skipText (offset + 2) rest
        else .error ⟨.invalidEscape, offset + 2⟩
    else if c.toNat < 0x20 then .error ⟨.controlCharacter, offset⟩
    else skipText (offset + c.utf8Size) rest

/-- The characters of a quoted text after its first quote. -/
def readText (offset : Nat) : List Char → Except Fault (List Char)
  | [] => .error ⟨.textEnds, offset⟩
  | c :: rest =>
    if c = '"' then .ok []
    else if c = '\\' then
      match rest with
      | [] => .error ⟨.textEnds, offset + 1⟩
      | e :: rest =>
        if e = 'u' then
          match rest with
          | a :: b :: c :: d :: rest =>
            match hexQuad? a b c d with
            | none => .error (hexFault (offset + 2) [a, b, c, d])
            | some n =>
              if isSecondHalf n then .error ⟨.loneHalf, offset + 6⟩
              else if isFirstHalf n then
                match rest with
                | [] => .error ⟨.textEnds, offset + 6⟩
                | '\\' :: [] => .error ⟨.textEnds, offset + 7⟩
                | '\\' :: 'u' :: a :: b :: c :: d :: rest =>
                  match hexQuad? a b c d with
                  | none => .error (hexFault (offset + 8) [a, b, c, d])
                  | some m =>
                    if isSecondHalf m then
                      (readText (offset + 12) rest).map (Char.ofNat (joinHalves n m) :: ·)
                    else .error ⟨.loneHalf, offset + 12⟩
                | '\\' :: 'u' :: short => .error (hexFault (offset + 8) short)
                | '\\' :: _ => .error ⟨.secondHalfExpected, offset + 8⟩
                | _ => .error ⟨.secondHalfExpected, offset + 7⟩
              else (readText (offset + 6) rest).map (Char.ofNat n :: ·)
          | short => .error (hexFault (offset + 2) short)
        else
          match simpleEscape? e with
          | some c => (readText (offset + 2) rest).map (c :: ·)
          | none => .error ⟨.invalidEscape, offset + 2⟩
    else if c.toNat < 0x20 then .error ⟨.controlCharacter, offset + 1⟩
    else (readText (offset + c.utf8Size) rest).map (c :: ·)

/-! ## Cutting -/

/-- A lexeme and what follows it; nothing follows a lexeme that cannot be passed over. -/
abbrev Cut := Lexeme × Option (List Char)

/-- The rest of a word, of which the first letter is read. -/
def cutWord (kind : Kind) (start : Nat) (offset : Nat) : (expected cs : List Char) → Cut
  | [], cs => (⟨kind, start, offset⟩, some cs)
  | _ :: _, [] =>
    let f : Fault := ⟨.valueEnds, offset⟩
    (⟨.broken false f f, start, offset⟩, none)
  | e :: expected, c :: cs =>
    if c = e then cutWord kind start (offset + 1) expected cs
    else
      let f : Fault := ⟨.wordExpected, offset + 1⟩
      (⟨.broken false f f, start, offset + 1⟩, none)

def cutText (start : Nat) (cs : List Char) : Cut :=
  let value := readText (start + 1) cs
  match skipText (start + 1) cs with
  | .ok (stop, rest) => (⟨.text value, start, stop⟩, some rest)
  | .error unwanted =>
    let wanted := match value with
      | .ok _ => unwanted
      | .error f => f
    (⟨.broken true wanted unwanted, start, start⟩, none)

def cutNumber (start : Nat) (cs : List Char) : Cut :=
  match scanNumber start cs with
  | .ok s => (⟨.number s.value, start, s.stop⟩, some s.rest)
  | .error d =>
    let unwanted : Fault := ⟨.invalidNumber, d.offset⟩
    let wanted : Fault := if d.atEnd then ⟨.valueEnds, d.offset⟩ else unwanted
    (⟨.broken false wanted unwanted, start, d.offset⟩, none)

/-- The lexeme that begins with `c`, which is not a blank. -/
def cutLexeme (start : Nat) (c : Char) (cs : List Char) : Cut :=
  match Mark.ofChar? c with
  | some m => (⟨.mark m, start, start + 1⟩, some cs)
  | none =>
    if c = '"' then cutText start cs
    else if c = '-' ∨ c.isDigit then cutNumber start (c :: cs)
    else if c = 'n' then cutWord .null start (start + 1) "ull".toList cs
    else if c = 't' then cutWord (.truth true) start (start + 1) "rue".toList cs
    else if c = 'f' then cutWord (.truth false) start (start + 1) "alse".toList cs
    else (⟨.stray, start, start + c.utf8Size⟩, some cs)

/-- The lexemes of a text that begins at `offset`.  Every lexeme has a character at least, so the
number of characters is fuel enough. -/
def cut (offset : Nat) : (fuel : Nat) → List Char → List Lexeme
  | 0, _ => []
  | _, [] => []
  | fuel + 1, c :: cs =>
    if isBlank c then cut (offset + 1) fuel cs
    else
      match cutLexeme offset c cs with
      | (l, some rest) => l :: cut l.stop fuel rest
      | (l, none) => [l]

/-- The lexemes of a text. -/
def lexemes (cs : List Char) : List Lexeme := cut 0 cs.length cs

end Garage.Json

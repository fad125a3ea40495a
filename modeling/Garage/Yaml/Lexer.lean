/-
# Cutting a text into tokens

Whether a key begins at some place is known only when a colon is found further on.  Until then
the place is kept in mind; when the colon comes, the token of a key is put in front of the tokens
that came since then.  A token is settled if no key can be put in front of it any more.

Indentation matters outside brackets only.  When a line begins further left than the last one, the
block collections to its right end there.
-/
import Garage.Yaml.Directive
import Garage.Yaml.Scalar.Block
import Garage.Yaml.Scalar.Plain

namespace Garage.Yaml

/-- A place where a key may begin. -/
structure KeyStart where
  /-- How many tokens come before it. -/
  number : Nat
  mark : Mark
  /-- Whether nothing else than a key can begin there. -/
  isRequired : Bool
deriving DecidableEq, Repr

/-- A key has to end in the line in which it begins, and 1024 bytes further on at most. -/
def KeyStart.isStale (k : KeyStart) (now : Mark) : Bool :=
  k.mark.line < now.line || k.mark.index + 1024 < now.index

/-- Gives up a place where a key may begin. -/
def KeyStart.giveUp (k : KeyStart) (now : Mark) : Except Malformed (Option KeyStart) :=
  if k.isRequired then .error ⟨.colonExpected, now, some (.simpleKey, k.mark)⟩ else .ok none

structure Lexer where
  cursor : Cursor
  /-- The tokens so far, the last one first. -/
  tokens : List Token
  /-- The number of the tokens so far. -/
  count : Nat
  /-- The columns of the block collections that have not ended, the innermost first. -/
  indents : List Nat
  /-- Where a key may have begun since the last bracket. -/
  key : Option KeyStart
  /-- Where a key may have begun before each of the brackets that are open, the innermost first. -/
  outer : List (Option KeyStart)
  /-- Whether a key may begin at the cursor. -/
  keyAllowed : Bool
deriving Repr

namespace Lexer

def ofText (cs : List Char) : Lexer := ⟨.ofText cs, [], 0, [], none, [], true⟩

/-- Whether brackets are open. -/
def inFlow (l : Lexer) : Bool := !l.outer.isEmpty

def mark (l : Lexer) : Mark := l.cursor.mark

/-- The least column inside the innermost block collection. -/
def column (l : Lexer) : Nat := l.indents.head?.elim 0 (· + 1)

/-! ## Tokens -/

/-- Puts a token behind the first `number` tokens. -/
def insert (l : Lexer) (number : Nat) (t : Token) : Lexer :=
  { l with tokens := l.tokens.insertIdx (l.count - number) t, count := l.count + 1 }

def push (l : Lexer) (t : Token) : Lexer :=
  { l with tokens := t :: l.tokens, count := l.count + 1 }

/-- Adds a token from the cursor up to `stop`, and goes on at `next`. -/
def pushTo (l : Lexer) (kind : TokenKind) (stop : Mark) (next : Cursor) : Lexer :=
  { l.push ⟨kind, l.mark, stop⟩ with cursor := next }

/-- Adds the next `n` characters as a token. -/
def take (l : Lexer) (kind : TokenKind) (n : Nat) : Lexer :=
  let next := l.cursor.advance n
  l.pushTo kind next.mark next

/-! ## Keys -/

/-- Gives up the place since the last bracket where a key may begin. -/
def forgetKey (l : Lexer) : Except Malformed Lexer :=
  match l.key with
  | none => .ok l
  | some k => do return { l with key := ← k.giveUp l.mark }

/-- Keeps in mind that a key may begin at the cursor.  It has to be one if it stands in the column
of the innermost block collection. -/
def noteKey (l : Lexer) : Except Malformed Lexer :=
  if l.keyAllowed then do
    let k : KeyStart := ⟨l.count, l.mark, !l.inFlow && l.indents.head? = some l.mark.column⟩
    return { ← l.forgetKey with key := some k }
  else .ok l

/-- Gives up all places that are too far away. -/
def dropStaleKeys (l : Lexer) : Except Malformed Lexer := do
  let fresh (key : Option KeyStart) : Except Malformed (Option KeyStart) :=
    match key with
    | some k => if k.isStale l.mark then k.giveUp l.mark else .ok (some k)
    | none => .ok none
  return { l with key := ← fresh l.key, outer := ← l.outer.mapM fresh }

/-- The number of settled tokens. -/
def settled (l : Lexer) : Nat :=
  ((l.key :: l.outer).filterMap id).foldl (fun n k => min n k.number) l.count

/-! ## Block collections -/

/-- Begins a block collection at `mark`, behind the first `number` tokens, if it is further right
than the innermost one. -/
def openBlock (l : Lexer) (kind : TokenKind) (number : Nat) (mark : Mark) : Lexer :=
  if l.inFlow || l.indents.head?.any (mark.column ≤ ·) then l
  else { l.insert number ⟨kind, mark, mark⟩ with indents := mark.column :: l.indents }

/-- Ends the block collections up to the first whose column is to stay. -/
def closeBlocks (l : Lexer) (stays : Nat → Bool) : Lexer :=
  if l.inFlow then l
  else
    let n := (l.indents.takeWhile (!stays ·)).length
    { l with
      tokens := List.replicate n ⟨.blockEnd, l.mark, l.mark⟩ ++ l.tokens
      count := l.count + n
      indents := l.indents.drop n }

/-- Ends all block collections. -/
def closeAllBlocks (l : Lexer) : Lexer := l.closeBlocks fun _ => false

/-! ## Between tokens -/

/-- Passes over blanks, comments and line breaks, and a byte order mark at the beginning of a
line.  A tab may stand only where no key can begin.  Outside brackets, a key may begin in a new
line; the result says whether one may begin. -/
def skipGaps (inFlow : Bool) (keyAllowed inComment : Bool) (mark : Mark) :
    List Char → Bool × Cursor
  | [] => (keyAllowed, ⟨mark, []⟩)
  | c :: rest =>
    if isBreak c then
      match c, rest with
      | '\r', '\n' :: rest => skipGaps inFlow (keyAllowed || !inFlow) false (mark.nextLine 2) rest
      | c, rest =>
        skipGaps inFlow (keyAllowed || !inFlow) false (mark.nextLine c.utf8Size) rest
    else if inComment || c = ' ' || (c = '\t' && (inFlow || !keyAllowed))
        || (c = '\ufeff' && mark.column = 0) then
      skipGaps inFlow keyAllowed inComment (mark.pass c) rest
    else if c = '#' then skipGaps inFlow keyAllowed true (mark.advance 1) rest
    else (keyAllowed, ⟨mark, c :: rest⟩)

/-- Goes to the beginning of the next token. -/
def skip (l : Lexer) : Lexer :=
  let (keyAllowed, cursor) := skipGaps l.inFlow l.keyAllowed false l.mark l.cursor.rest
  { l with keyAllowed := keyAllowed, cursor := cursor }

/-! ## One token -/

/-- The end of the text counts as a new line. -/
def takeEnd (l : Lexer) : Except Malformed Lexer := do
  let mark := if l.mark.column = 0 then l.mark else l.mark.nextLine 0
  let l ← { l with cursor := ⟨mark, []⟩ }.closeAllBlocks.forgetKey
  return { l with keyAllowed := false }.take .streamEnd 0

def takeDirective (l : Lexer) : Except Malformed Lexer := do
  let l ← l.closeAllBlocks.forgetKey
  let (kind, stop, next) ← scanDirective l.cursor
  return { l with keyAllowed := false }.pushTo kind stop next

/-- Three hyphens or dots. -/
def takeDocumentMark (l : Lexer) (kind : TokenKind) : Except Malformed Lexer := do
  let l ← l.closeAllBlocks.forgetKey
  return { l with keyAllowed := false }.take kind 3

def takeOpening (l : Lexer) (kind : TokenKind) : Except Malformed Lexer := do
  let l ← l.noteKey
  return { l with key := none, outer := l.key :: l.outer, keyAllowed := true }.take kind 1

def takeClosing (l : Lexer) (kind : TokenKind) : Except Malformed Lexer := do
  let l ← l.forgetKey
  let l := { l with key := l.outer.head?.join, outer := l.outer.tail }
  return { l with keyAllowed := false }.take kind 1

/-- A comma between brackets, or one that should not be there. -/
def takeComma (l : Lexer) : Except Malformed Lexer := do
  let l ← l.forgetKey
  return { l with keyAllowed := true }.take .flowEntry 1

/-- The hyphen before an item.  Between brackets it is taken too, and found out to be wrong
later. -/
def takeHyphen (l : Lexer) : Except Malformed Lexer := do
  if ¬ l.inFlow ∧ ¬ l.keyAllowed then throw ⟨.entryNotAllowed, l.mark, none⟩
  let l ← (l.openBlock .blockSequenceStart l.count l.mark).forgetKey
  return { l with keyAllowed := true }.take .blockEntry 1

/-- The question mark before a key. -/
def takeQuestionMark (l : Lexer) : Except Malformed Lexer := do
  if ¬ l.inFlow ∧ ¬ l.keyAllowed then throw ⟨.keyNotAllowed, l.mark, none⟩
  let l ← (l.openBlock .blockMappingStart l.count l.mark).forgetKey
  return { l with keyAllowed := !l.inFlow }.take .key 1

/-- The colon before a value.  If there is a place where its key may have begun, it has begun
there. -/
def takeColon (l : Lexer) : Except Malformed Lexer :=
  match l.key with
  | some k =>
    let l := l.insert k.number ⟨.key, k.mark, k.mark⟩
    let l := l.openBlock .blockMappingStart k.number k.mark
    .ok ({ l with key := none, keyAllowed := false }.take .value 1)
  | none =>
    if ¬ l.inFlow ∧ ¬ l.keyAllowed then .error ⟨.valueNotAllowed, l.mark, none⟩
    else
      let l := l.openBlock .blockMappingStart l.count l.mark
      .ok ({ l with keyAllowed := !l.inFlow }.take .value 1)

def takeName (l : Lexer) (activity : Activity) (kind : List Char → TokenKind) :
    Except Malformed Lexer := do
  let l ← l.noteKey
  let (name, next) ← scanName activity l.cursor
  return { l with keyAllowed := false }.pushTo (kind name) next.mark next

def takeTag (l : Lexer) : Except Malformed Lexer := do
  let l ← l.noteKey
  let ((handle, suffix), next) ← scanTag l.inFlow l.cursor
  return { l with keyAllowed := false }.pushTo (.tag handle suffix) next.mark next

def takeBlockScalar (l : Lexer) (style : Style) : Except Malformed Lexer := do
  let l ← l.forgetKey
  let (text, next) ← scanBlock (style = .literal) l.column l.cursor
  return { l with keyAllowed := true }.pushTo (.scalar style text) next.mark next

def takeQuoted (l : Lexer) (quote : Char) : Except Malformed Lexer := do
  let l ← l.noteKey
  let (text, next) ← scanQuoted quote l.cursor
  return { l with keyAllowed := false }.pushTo (.scalar .quoted text) next.mark next

def takePlain (l : Lexer) : Except Malformed Lexer := do
  let l ← l.noteKey
  let s ← scanPlain l.inFlow l.column l.cursor
  return { l with keyAllowed := s.isBroken }.pushTo (.scalar .plain s.text) s.stop s.next

/-- Whether a plain scalar can begin with `c` when `rest` follows. -/
def startsPlain (inFlow : Bool) (c : Char) (rest : List Char) : Bool :=
  if c = '-' then !rest.head?.any isBlank
  else if c = '?' || c = ':' then !inFlow && !atBlankOrEnd rest
  else !(isBlank c || "#,[]\x7b\x7d&*!|>'\"%@`".toList.contains c)

/-- The token at the cursor, and with it the tokens of block collections that begin or end
there. -/
def takeToken (l : Lexer) : Except Malformed Lexer :=
  let l := l.closeBlocks (· ≤ l.mark.column)
  match l.cursor.rest with
  | [] => l.takeEnd
  | c :: rest =>
    if l.mark.column = 0 ∧ c = '%' then l.takeDirective
    else if l.mark.column = 0 ∧ atDocumentMark (c :: rest) then
      l.takeDocumentMark (if c = '-' then .documentStart else .documentEnd)
    else if c = '-' ∧ atBlankOrEnd rest then l.takeHyphen
    else if c = '?' ∧ (l.inFlow ∨ atBlankOrEnd rest) then l.takeQuestionMark
    else if c = ':' ∧ (l.inFlow ∨ atBlankOrEnd rest) then l.takeColon
    else if (c = '|' ∨ c = '>') ∧ ¬ l.inFlow then
      l.takeBlockScalar (if c = '|' then .literal else .folded)
    else
      match c with
      | '[' => l.takeOpening .flowSequenceStart
      | ']' => l.takeClosing .flowSequenceEnd
      | '\x7b' => l.takeOpening .flowMappingStart
      | '\x7d' => l.takeClosing .flowMappingEnd
      | ',' => l.takeComma
      | '*' => l.takeName .reference .reference
      | '&' => l.takeName .anchor .anchor
      | '!' => l.takeTag
      | '\'' => l.takeQuoted '\''
      | '"' => l.takeQuoted '"'
      | _ =>
        if startsPlain l.inFlow c rest then l.takePlain
        else .error ⟨.noTokenStart, l.mark, some (.nextToken, l.mark)⟩

def next (l : Lexer) : Except Malformed Lexer := do (← l.skip.dropStaleKeys).takeToken

/-- Whether the token of the end is there. -/
def isDone (l : Lexer) : Bool := l.tokens.head?.any (·.kind = .streamEnd)

end Lexer

/-- The tokens of a text. -/
structure Lexed where
  tokens : List Token
  /-- What is wrong behind the last of the tokens. -/
  fault : Malformed
deriving DecidableEq, Repr

/-- Adds tokens until the text is over or there is a fault; `settled` says how many tokens were
settled before the last step. -/
def Lexer.run : (fuel settled : Nat) → Lexer → Lexed
  | 0, settled, l => ⟨l.tokens.reverse.take settled, ⟨.textEnds, l.mark, none⟩⟩
  | fuel + 1, settled, l =>
    match l.dropStaleKeys with
    | .error m => ⟨l.tokens.reverse.take settled, m⟩
    | .ok l =>
      if l.isDone then ⟨l.tokens.reverse, ⟨.textEnds, l.mark, none⟩⟩
      else
        match l.next with
        | .error m => ⟨l.tokens.reverse.take l.settled, m⟩
        | .ok next => run fuel l.settled next

/-- The tokens of a text.  Every token but the last takes a character at least, so the length of the
text is fuel enough. -/
def tokenize (cs : List Char) : Lexed := (Lexer.ofText cs).run (cs.length + 3) 0

end Garage.Yaml

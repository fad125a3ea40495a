/-
# Tokens of YAML

A text is first cut into tokens.  Indentation shows itself in tokens too: a block collection has
a token where it begins and one where it ends, though nothing stands there in the text.
-/
import Garage.Yaml.Cursor

namespace Garage.Yaml

/-- How the text of a scalar is written. -/
inductive Style
  | plain
  /-- Between quotes of either kind. -/
  | quoted
  /-- In lines of its own, which are kept. -/
  | literal
  /-- In lines of its own, which are joined. -/
  | folded
deriving DecidableEq, Repr

inductive TokenKind
  | streamEnd
  | version (major minor : Nat)
  /-- A handle and what it stands for. -/
  | tagHandle (handle start : List Char)
  | documentStart
  | documentEnd
  | blockSequenceStart
  | blockMappingStart
  | blockEnd
  | flowSequenceStart
  | flowSequenceEnd
  | flowMappingStart
  | flowMappingEnd
  | blockEntry
  | flowEntry
  | key
  | value
  /-- An alias. -/
  | reference (name : List Char)
  | anchor (name : List Char)
  | tag (handle suffix : List Char)
  | scalar (style : Style) (text : List Char)
deriving DecidableEq, Repr

structure Token where
  kind : TokenKind
  start : Mark
  stop : Mark
deriving DecidableEq, Repr

end Garage.Yaml

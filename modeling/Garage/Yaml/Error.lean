/-
# What can be wrong with YAML text

A text may break the rules of YAML, or it may be YAML and still not what is wanted.  In the first
case an error says what was going on and where that began, in the second by which names and
numbers the value is reached.
-/
import Garage.Layout.Mismatch
import Garage.Yaml.Cursor

namespace Garage.Yaml

/-- A way in which a text breaks the rules. -/
inductive Problem
  | colonExpected
  | noTokenStart
  | entryNotAllowed
  | keyNotAllowed
  | valueNotAllowed
  | unknownDirective
  | directiveNameExpected
  | strangeDirectiveName
  | lineEndExpected
  | versionDotExpected
  | versionTooLong
  | versionExpected
  | exclamationExpected
  | blankExpected
  | blankOrBreakExpected
  | tagEndExpected
  | tagExpected
  | octetExpected
  | badFirstOctet
  | badLaterOctet
  | nameExpected
  | zeroIndent
  | tabAsIndent
  | documentMarkInText
  | textEnds
  | unknownEscape
  | hexExpected
  | invalidCodePoint
  | colonInPlainText
  | tabInIndent
  | documentStartExpected
  | repeatedVersion
  | wrongVersion
  | repeatedTagDirective
  | undefinedTagHandle
  | contentExpected
  | hyphenExpected
  | keyExpected
  | commaOrBracketExpected
  | commaOrBraceExpected
deriving DecidableEq, Repr

def Problem.message : Problem → String
  | colonExpected => "could not find expected ':'"
  | noTokenStart => "found character that cannot start any token"
  | entryNotAllowed => "block sequence entries are not allowed in this context"
  | keyNotAllowed => "mapping keys are not allowed in this context"
  | valueNotAllowed => "mapping values are not allowed in this context"
  | unknownDirective => "found unknown directive name"
  | directiveNameExpected => "could not find expected directive name"
  | strangeDirectiveName => "found unexpected non-alphabetical character"
  | lineEndExpected => "did not find expected comment or line break"
  | versionDotExpected => "did not find expected digit or '.' character"
  | versionTooLong => "found extremely long version number"
  | versionExpected => "did not find expected version number"
  | exclamationExpected => "did not find expected '!'"
  | blankExpected => "did not find expected whitespace"
  | blankOrBreakExpected => "did not find expected whitespace or line break"
  | tagEndExpected => "did not find the expected '>'"
  | tagExpected => "did not find expected tag URI"
  | octetExpected => "did not find URI escaped octet"
  | badFirstOctet => "found an incorrect leading UTF-8 octet"
  | badLaterOctet => "found an incorrect trailing UTF-8 octet"
  | nameExpected => "did not find expected alphabetic or numeric character"
  | zeroIndent => "found an indentation indicator equal to 0"
  | tabAsIndent => "found a tab character where an indentation space is expected"
  | documentMarkInText => "found unexpected document indicator"
  | textEnds => "found unexpected end of stream"
  | unknownEscape => "found unknown escape character"
  | hexExpected => "did not find expected hexadecimal number"
  | invalidCodePoint => "found invalid Unicode character escape code"
  | colonInPlainText => "found unexpected ':'"
  | tabInIndent => "found a tab character that violates indentation"
  | documentStartExpected => "did not find expected <document start>"
  | repeatedVersion => "found duplicate %YAML directive"
  | wrongVersion => "found incompatible YAML document"
  | repeatedTagDirective => "found duplicate %TAG directive"
  | undefinedTagHandle => "found undefined tag handle"
  | contentExpected => "did not find expected node content"
  | hyphenExpected => "did not find expected '-' indicator"
  | keyExpected => "did not find expected key"
  | commaOrBracketExpected => "did not find expected ',' or ']'"
  | commaOrBraceExpected => "did not find expected ',' or '\x7d'"

/-- What was going on when a problem was noticed. -/
inductive Activity
  | simpleKey
  | nextToken
  | directive
  | versionDirective
  | tagDirectiveScan
  | tagDirectiveHandle
  | tagDirectiveStart
  | tagDirective
  | tagScan
  | tag
  | anchor
  | reference
  | blockText
  | quotedText
  | quotedEscape
  | plainText
  | node
  | blockNode
  | flowNode
  | blockSequence
  | blockMapping
  | flowSequence
  | flowMapping
deriving DecidableEq, Repr

def Activity.message : Activity → String
  | simpleKey => "while scanning a simple key"
  | nextToken => "while scanning for the next token"
  | directive => "while scanning a directive"
  | versionDirective => "while scanning a %YAML directive"
  | tagDirectiveScan => "while scanning a %TAG directive"
  | tagDirectiveHandle => "while scanning a tag directive"
  | tagDirectiveStart => "while parsing a tag directive"
  | tagDirective => "while parsing a %TAG directive"
  | tagScan => "while scanning a tag"
  | tag => "while parsing a tag"
  | anchor => "while scanning an anchor"
  | reference => "while scanning an alias"
  | blockText => "while scanning a block scalar"
  | quotedText => "while scanning a quoted scalar"
  | quotedEscape => "while parsing a quoted scalar"
  | plainText => "while scanning a plain scalar"
  | node => "while parsing a node"
  | blockNode => "while parsing a block node"
  | flowNode => "while parsing a flow node"
  | blockSequence => "while parsing a block collection"
  | blockMapping => "while parsing a block mapping"
  | flowSequence => "while parsing a flow sequence"
  | flowMapping => "while parsing a flow mapping"

/-- A problem, where it was noticed, and what was going on since when. -/
structure Malformed where
  problem : Problem
  mark : Mark
  context : Option (Activity × Mark)
deriving DecidableEq, Repr

/-- The place of the context is left out if it is the place of the problem. -/
def Malformed.message (m : Malformed) : String :=
  m.problem.message ++ m.mark.text
    ++ match m.context with
      | none => ""
      | some (activity, since) =>
        s!", {activity.message}" ++ if since.sameAs m.mark then "" else since.text

/-- One step on the way from the whole document to a value in it. -/
inductive PathStep
  | item (index : Nat)
  | key (name : List Char)
  /-- A value whose name is not written where the value is. -/
  | unnamed
deriving DecidableEq, Repr

/-- The way to a value; the last step comes first. -/
abbrev Path := List PathStep

/-- A name on a way, set off with a dot from what comes before it. -/
def dotted (outer name : String) : String :=
  if outer.isEmpty then name else s!"{outer}.{name}"

/-- The way in a message. -/
def Path.text : Path → String
  | [] => ""
  | .item i :: outer => s!"{Path.text outer}[{i}]"
  | .key name :: outer => dotted (Path.text outer) (String.ofList name)
  | .unnamed :: outer => dotted (Path.text outer) "?"

/-- Why a text could not be read. -/
inductive Error
  /-- A character that may not stand in any text, after this many bytes. -/
  | controlCharacter (offset : Nat)
  | malformed (m : Malformed)
  /-- An alias without its anchor. -/
  | unknownAnchor (mark : Mark)
  | mismatch (m : Mismatch) (path : Path) (mark : Mark)
  /-- Aliases were followed far too often. -/
  | tooManyAliases
  | severalDocuments
deriving DecidableEq, Repr

def Error.message : Error → String
  | controlCharacter offset =>
    "control characters are not allowed"
      ++ if offset = 0 then "" else s!" at position {offset}"
  | malformed m => m.message
  | unknownAnchor mark => "unknown anchor" ++ mark.text
  | mismatch m path mark =>
    let way := path.text
    (if way.isEmpty then "" else way ++ ": ") ++ m.message ++ mark.text
  | tooManyAliases => "repetition limit exceeded"
  | severalDocuments =>
    "deserializing from YAML containing more than one document is not supported"

end Garage.Yaml

/-
# Documents

The tokens of a text are put together to a tree of nodes, as the grammar of YAML says.  At a fault
the tree is cut: the remaining tokens are given up, and so whatever would come next is missing.
-/
import Garage.Yaml.Lexer
import Garage.Yaml.Node

namespace Garage.Yaml

/-- What remains of a text while its nodes are read. -/
structure Remainder where
  tokens : List Token
  /-- What is wrong behind the last of the tokens. -/
  fault : Error
  /-- The anchors so far, each with a number. -/
  anchors : List (List Char × Nat)
  /-- The tag handles that the document brings, each with what it stands for. -/
  handles : List (List Char × List Char)

namespace Remainder

def ofLexed (l : Lexed) : Remainder := ⟨l.tokens, .malformed l.fault, [], []⟩

/-- Goes on with other tokens. -/
def goTo (s : Remainder) (tokens : List Token) : Remainder := { s with tokens := tokens }

/-- Gives up the remaining tokens. -/
def stop (s : Remainder) : Remainder := s.goTo []

/-- Gives up the remaining tokens, as there is a fault. -/
def fail (s : Remainder) (e : Error) : Remainder := { s.stop with fault := e }

/-- Gives up the remaining tokens, as something else was expected at `mark`. -/
def failAt (s : Remainder) (p : Problem) (mark : Mark) (context : Option (Activity × Mark)) :
    Remainder :=
  s.fail (.malformed ⟨p, mark, context⟩)

/-- Whether the next token is one of these. -/
def isAt (s : Remainder) (kinds : List TokenKind) : Bool :=
  s.tokens.head?.any fun t => kinds.contains t.kind

/-- Passes over the comma in front of an item between brackets, unless the bracket is closed. -/
def skipComma (s : Remainder) (close : TokenKind) (p : Problem) (activity : Activity)
    (start : Mark) : Remainder :=
  match s.tokens with
  | [] => s
  | t :: rest =>
    if t.kind = .flowEntry then s.goTo rest
    else if t.kind = close then s
    else s.failAt p t.start (some (activity, start))

/-- A scalar of which nothing is written, at the next token. -/
def emptyNode (s : Remainder) : Node := s.tokens.head?.elim .missing fun t => .empty t.start

/-! ## Anchors and tags -/

/-- The number of an anchor. -/
def anchor? (s : Remainder) (name : List Char) : Option Nat :=
  (s.anchors.find? (·.1 = name)).map (·.2)

/-- Gives a number to an anchor: how many names there were before.  If a name is used again, it
gets a new number, which may then be given to another name as well. -/
def addAnchor (s : Remainder) (name : List Char) : Nat × Remainder :=
  let n := s.anchors.length
  (n, { s with anchors := (name, n) :: s.anchors.filter (·.1 ≠ name) })

/-- What stands before a node: an anchor, and a tag with its handle, its suffix and its place. -/
structure Properties where
  anchor : Option (List Char)
  tag : Option (List Char × List Char × Mark)

/-- Takes an anchor, if there is one. -/
def takeAnchor (s : Remainder) : Option (List Char) × Remainder :=
  match s.tokens with
  | ⟨.anchor name, _, _⟩ :: rest => (some name, s.goTo rest)
  | _ => (none, s)

/-- Takes a tag, if there is one. -/
def takeTag (s : Remainder) : Option (List Char × List Char × Mark) × Remainder :=
  match s.tokens with
  | ⟨.tag handle suffix, start, _⟩ :: rest => (some (handle, suffix, start), s.goTo rest)
  | _ => (none, s)

/-- Takes an anchor and a tag, in either order, as far as they are there. -/
def takeProperties (s : Remainder) : Properties × Remainder :=
  match s.takeAnchor with
  | (some anchor, s) =>
    let (tag, s) := s.takeTag
    (⟨some anchor, tag⟩, s)
  | (none, s) =>
    match s.takeTag with
    | (some tag, s) =>
      let (anchor, s) := s.takeAnchor
      (⟨anchor, some tag⟩, s)
    | (none, s) => (⟨none, none⟩, s)

/-- The handles that every document has. -/
def standardHandles : List (List Char × List Char) :=
  [("!".toList, "!".toList), ("!!".toList, "tag:yaml.org,2002:".toList)]

/-- The whole tag for a handle and a suffix; a tag without a handle is whole. -/
def resolveTag (s : Remainder) (handle suffix : List Char) : Option (List Char) :=
  if handle.isEmpty then some suffix
  else ((s.handles ++ standardHandles).find? (·.1 = handle)).map (·.2 ++ suffix)

/-! ## Nodes

Every token belongs to one node at most and opens one collection at most, so that four times the
number of tokens is fuel enough. -/

mutual

/-- Takes a node.  `block` says whether a block collection may begin here, and `flush` whether it
may be a sequence that is not indented. -/
def takeNode : (fuel : Nat) → (block flush : Bool) → Remainder → Node × Remainder
  | 0, _, _, s => (.missing, s.stop)
  | fuel + 1, block, flush, s =>
    match s.tokens with
    | [] => (.missing, s)
    | ⟨.reference name, start, _⟩ :: rest =>
      match s.anchor? name with
      | some n => (.reference start n, s.goTo rest)
      | none => (.missing, s.fail (.unknownAnchor start))
    | first :: _ =>
      let start := first.start
      let (p, s) := s.takeProperties
      match s.tokens with
      | [] => (.missing, s)
      | t :: rest =>
        match p.tag.map fun (handle, suffix, mark) => (s.resolveTag handle suffix, mark) with
        | some (none, mark) =>
          (.missing, s.failAt .undefinedTagHandle mark (some (.node, start)))
        | tag =>
          let tag := tag.bind (·.1)
          let (anchor, s) :=
            match p.anchor with
            | some name => let (n, s) := s.addAnchor name; (some n, s)
            | none => (none, s)
          match t.kind, block, flush with
          | .scalar style text, _, _ => (.scalar start anchor tag style text, s.goTo rest)
          | .flowSequenceStart, _, _ =>
            let (items, s) := takeFlowItems fuel t.start true (s.goTo rest)
            (.sequence start anchor items, s)
          | .flowMappingStart, _, _ =>
            let (entries, s) := takeFlowEntries fuel t.start true (s.goTo rest)
            (.mapping start anchor entries, s)
          | .blockSequenceStart, true, _ =>
            let (items, s) := takeItems fuel t.start (s.goTo rest)
            (.sequence start anchor items, s)
          | .blockMappingStart, true, _ =>
            let (entries, s) := takeEntries fuel t.start (s.goTo rest)
            (.mapping start anchor entries, s)
          | .blockEntry, _, true =>
            let (items, s) := takeFlushItems fuel s
            (.sequence start anchor items, s)
          | _, _, _ =>
            if anchor.isSome ∨ tag.isSome then (.scalar start anchor tag .plain [], s)
            else
              (.missing, s.failAt .contentExpected t.start
                (some (if block then .blockNode else .flowNode, start)))

/-- Takes the items of a block sequence and its end. -/
def takeItems : (fuel : Nat) → (start : Mark) → Remainder → List Node × Remainder
  | 0, _, s => ([.missing], s.stop)
  | fuel + 1, start, s =>
    match s.tokens with
    | [] => ([.missing], s)
    | t :: rest =>
      let s := s.goTo rest
      if t.kind = .blockEntry then
        let (item, s) :=
          if s.isAt [.blockEntry, .blockEnd] then (.empty t.stop, s)
          else takeNode fuel true false s
        let (items, s) := takeItems fuel start s
        (item :: items, s)
      else if t.kind = .blockEnd then ([], s)
      else ([.missing], s.failAt .hyphenExpected t.start (some (.blockSequence, start)))

/-- Takes the items of a block sequence that is not indented. -/
def takeFlushItems : (fuel : Nat) → Remainder → List Node × Remainder
  | 0, s => ([.missing], s.stop)
  | fuel + 1, s =>
    match s.tokens with
    | [] => ([.missing], s)
    | t :: rest =>
      if t.kind = .blockEntry then
        let s := s.goTo rest
        let (item, s) :=
          if s.isAt [.blockEntry, .key, .value, .blockEnd] then (.empty t.stop, s)
          else takeNode fuel true false s
        let (items, s) := takeFlushItems fuel s
        (item :: items, s)
      else ([], s)

/-- Takes a key or a value of a block mapping, behind its sign, which ends at `stop`. -/
def takePart : (fuel : Nat) → (stop : Mark) → Remainder → Node × Remainder
  | 0, _, s => (.missing, s.stop)
  | fuel + 1, stop, s =>
    if s.isAt [.key, .value, .blockEnd] then (.empty stop, s) else takeNode fuel true true s

/-- Takes the entries of a block mapping and its end. -/
def takeEntries : (fuel : Nat) → (start : Mark) → Remainder → List (Node × Node) × Remainder
  | 0, _, s => ([Node.missingEntry], s.stop)
  | fuel + 1, start, s =>
    match s.tokens with
    | [] => ([Node.missingEntry], s)
    | t :: rest =>
      let s := s.goTo rest
      if t.kind = .key then
        let (key, s) := takePart fuel t.stop s
        let (value, s) :=
          match s.tokens with
          | ⟨.value, _, stop⟩ :: rest => takePart fuel stop (s.goTo rest)
          | _ => (s.emptyNode, s)
        let (entries, s) := takeEntries fuel start s
        ((key, value) :: entries, s)
      else if t.kind = .blockEnd then ([], s)
      else
        ([Node.missingEntry], s.failAt .keyExpected t.start (some (.blockMapping, start)))

/-- Takes the items of a sequence between brackets and the closing bracket. -/
def takeFlowItems : (fuel : Nat) → (start : Mark) → (first : Bool) → Remainder →
    List Node × Remainder
  | 0, _, _, s => ([.missing], s.stop)
  | fuel + 1, start, first, s =>
    let s :=
      if first then s
      else s.skipComma .flowSequenceEnd .commaOrBracketExpected .flowSequence start
    match s.tokens with
    | [] => ([.missing], s)
    | t :: rest =>
      if t.kind = .flowSequenceEnd then ([], s.goTo rest)
      else
        let (item, s) :=
          if t.kind = .key then takeFlowPair fuel t.start (s.goTo rest)
          else takeNode fuel false false s
        let (items, s) := takeFlowItems fuel start false s
        (item :: items, s)

/-- Takes a mapping with a single entry, which needs no braces between brackets.  If its key is
empty, whatever comes next is passed over. -/
def takeFlowPair : (fuel : Nat) → (start : Mark) → Remainder → Node × Remainder
  | 0, _, s => (.missing, s.stop)
  | fuel + 1, start, s =>
    let (key, s) :=
      match s.tokens with
      | [] => (.missing, s)
      | t :: rest =>
        if s.isAt [.value, .flowEntry, .flowSequenceEnd] then (.empty t.stop, s.goTo rest)
        else takeNode fuel false false s
    let (value, s) := takeFlowValue fuel .flowSequenceEnd s
    let behind := if s.tokens.isEmpty then [Node.missingEntry] else []
    (.mapping start none ((key, value) :: behind), s)

/-- Takes the value of an entry between brackets, if there is one; `close` is the closing
bracket. -/
def takeFlowValue : (fuel : Nat) → (close : TokenKind) → Remainder → Node × Remainder
  | 0, _, s => (.missing, s.stop)
  | fuel + 1, close, s =>
    match s.tokens with
    | ⟨.value, _, _⟩ :: rest =>
      let s := s.goTo rest
      if s.isAt [.flowEntry, close] then (s.emptyNode, s) else takeNode fuel false false s
    | _ => (s.emptyNode, s)

/-- Takes the entries of a mapping between braces and the closing brace. -/
def takeFlowEntries : (fuel : Nat) → (start : Mark) → (first : Bool) → Remainder →
    List (Node × Node) × Remainder
  | 0, _, _, s => ([Node.missingEntry], s.stop)
  | fuel + 1, start, first, s =>
    let s :=
      if first then s
      else s.skipComma .flowMappingEnd .commaOrBraceExpected .flowMapping start
    match s.tokens with
    | [] => ([Node.missingEntry], s)
    | t :: rest =>
      if t.kind = .flowMappingEnd then ([], s.goTo rest)
      else if t.kind = .key then
        let s := s.goTo rest
        let (key, s) :=
          if s.isAt [.value, .flowEntry, .flowMappingEnd] then (s.emptyNode, s)
          else takeNode fuel false false s
        let (value, s) := takeFlowValue fuel .flowMappingEnd s
        let (entries, s) := takeFlowEntries fuel start false s
        ((key, value) :: entries, s)
      else
        let (key, s) := takeNode fuel false false s
        let value := s.emptyNode
        let (entries, s) := takeFlowEntries fuel start false s
        ((key, value) :: entries, s)

end

/-! ## The document -/

/-- Takes directives, of which at most one gives the version of YAML. -/
def takeDirectives (s : Remainder) (hasVersion : Bool) : List Token → Remainder
  | ⟨.version major minor, start, _⟩ :: rest =>
    if hasVersion then s.failAt .repeatedVersion start none
    else if major ≠ 1 ∨ (minor ≠ 1 ∧ minor ≠ 2) then s.failAt .wrongVersion start none
    else s.takeDirectives true rest
  | ⟨.tagHandle handle uri, start, _⟩ :: rest =>
    if s.handles.any (·.1 = handle) then s.failAt .repeatedTagDirective start none
    else { s with handles := s.handles ++ [(handle, uri)] }.takeDirectives hasVersion rest
  | tokens => s.goTo tokens

/-- Takes the hyphens at the beginning of a document. -/
def takeDocumentStart (s : Remainder) : Remainder :=
  match s.tokens with
  | [] => s
  | t :: rest =>
    if t.kind = .documentStart then s.goTo rest
    else s.failAt .documentStartExpected t.start none

/-- Whether the next token belongs to no node. -/
def isAtBoundary (s : Remainder) : Bool :=
  match s.tokens with
  | [] => false
  | t :: _ =>
    match t.kind with
    | .version .. | .tagHandle .. | .documentStart | .documentEnd | .streamEnd => true
    | _ => false

/-- Takes the first document of a text.  If it does not begin with directives or hyphens, there has
to be a node. -/
def takeDocument (s : Remainder) : Node × Remainder :=
  let fuel := 4 * s.tokens.length + 4
  if s.isAt [.streamEnd] then (s.emptyNode, s)
  else if s.isAtBoundary ∧ ¬ s.isAt [.documentEnd] then
    let s := (s.takeDirectives false s.tokens).takeDocumentStart
    if s.isAtBoundary then (s.emptyNode, s) else takeNode fuel true false s
  else takeNode fuel true false s

end Remainder

/-- The first document of a text. -/
structure Document where
  root : Node
  /-- What is wrong with the document, if anything is. -/
  fault : Option Error
  /-- Whether something comes behind it. -/
  hasMore : Bool

/-- The first document in the tokens of a text. -/
def Document.ofLexed (l : Lexed) : Document :=
  let (root, s) := (Remainder.ofLexed l).takeDocument
  match s.tokens.dropWhile (·.kind = .documentEnd) with
  | t :: _ => ⟨root, none, t.kind ≠ .streamEnd⟩
  | [] => ⟨root, if s.tokens.isEmpty then some s.fault else none, true⟩

end Garage.Yaml

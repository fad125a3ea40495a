/-
# Nodes

A document is a tree of nodes: scalars, sequences, mappings, and aliases, which stand for nodes
that are elsewhere in the tree.  If there is a fault in the text, the tree is still there as far
as it was read, and what would come next is missing.
-/
import Garage.Yaml.Error
import Garage.Yaml.Token

namespace Garage.Yaml

/-- A value.  Its mark is where it begins, or where its anchor or its tag does. -/
inductive Node
  | scalar (mark : Mark) (anchor : Option Nat) (tag : Option (List Char)) (style : Style)
      (text : List Char)
  /-- Stands for the node with this anchor. -/
  | reference (mark : Mark) (anchor : Nat)
  | sequence (mark : Mark) (anchor : Option Nat) (items : List Node)
  | mapping (mark : Mark) (anchor : Option Nat) (entries : List (Node × Node))
  /-- What could not be read; it has no parts, and nothing comes after it. -/
  | missing
deriving Repr

namespace Node

/-- A scalar of which nothing is written. -/
def empty (mark : Mark) : Node := scalar mark none none .plain []

/-- An entry that could not be read. -/
def missingEntry : Node × Node := (missing, missing)

/-! ## Anchors -/

def anchor? : Node → Option Nat
  | scalar _ anchor .. | sequence _ anchor _ | mapping _ anchor _ => anchor
  | reference .. | missing => none

/-- Puts a node on top of others if it has an anchor. -/
def stackSelf (n : Node) (others : List Node) : List Node :=
  if n.anchor?.isSome then n :: others else others

mutual

/-- Puts the nodes that have an anchor on top of others: a node itself first, and then its parts in
the order of the text, so that the last of them is on top. -/
def stack (others : List Node) : Node → List Node
  | sequence mark anchor items =>
    stackItems ((sequence mark anchor items).stackSelf others) items
  | mapping mark anchor entries =>
    stackEntries ((mapping mark anchor entries).stackSelf others) entries
  | n => n.stackSelf others

def stackItems (others : List Node) : List Node → List Node
  | [] => others
  | item :: rest => stackItems (item.stack others) rest

def stackEntries (others : List Node) : List (Node × Node) → List Node
  | [] => others
  | (key, value) :: rest => stackEntries (value.stack (key.stack others)) rest

end

/-- The nodes in a tree that have an anchor, the last one first. -/
def anchored (n : Node) : List Node := n.stack []

/-! ## Size -/

/-- How far a node goes. -/
structure Extent where
  /-- How many events make up the node and its parts: a scalar or an alias is one, and a collection
  has a beginning and, unless it is cut, an end. -/
  events : Nat
  /-- Whether something is missing. -/
  isCut : Bool
deriving DecidableEq, Repr

namespace Extent

def append (x y : Extent) : Extent := ⟨x.events + y.events, x.isCut || y.isCut⟩

/-- The extent of a collection whose parts have this extent. -/
def collection (x : Extent) : Extent := ⟨x.events + if x.isCut then 1 else 2, x.isCut⟩

end Extent

mutual

def extent : Node → Extent
  | scalar .. | reference .. => ⟨1, false⟩
  | missing => ⟨0, true⟩
  | sequence _ _ items => (extentOfItems items).collection
  | mapping _ _ entries => (extentOfEntries entries).collection

def extentOfItems : List Node → Extent
  | [] => ⟨0, false⟩
  | item :: rest => item.extent.append (extentOfItems rest)

def extentOfEntries : List (Node × Node) → Extent
  | [] => ⟨0, false⟩
  | (key, value) :: rest => (key.extent.append value.extent).append (extentOfEntries rest)

end

end Node

end Garage.Yaml

/-!
# Nodes

The tree that the tokens of a document make up: scalars, sequences and mappings with their anchors
and tags, and references to anchors in their place.  An anchor is known by a number.
-/

namespace BareMetal.Yaml

/-- What is told about a node in front of it. -/
structure Marks where
  /-- The number of its anchor. -/
  anchor : Option Nat := none
  /-- Its tag, written out. -/
  tag : Option String := none

/-- A node of a document. -/
inductive Node where
  /-- A reference to the node that an anchor stands in front of. -/
  | reference (anchor : Nat)
  /-- A scalar, and whether it is written without quotes. -/
  | scalar (marks : Marks) (text : String) (isPlain : Bool)
  /-- A sequence. -/
  | sequence (marks : Marks) (items : List Node)
  /-- A mapping from keys to values. -/
  | mapping (marks : Marks) (entries : List (Node × Node))

namespace Node

/-- The node that is not written. -/
def empty : Node := scalar {} "" true

/-- An anchor in front of a node, with the node, if there is one. -/
def ownAnchor (marks : Marks) (node : Node) : List (Nat × Node) :=
  match marks.anchor with
  | some number => [(number, node)]
  | none => []

mutual

/-- The anchors in a node with the nodes behind them, in the order of the text. -/
def anchors : Node → List (Nat × Node)
  | reference _ => []
  | scalar marks text isPlain => ownAnchor marks (scalar marks text isPlain)
  | sequence marks items => ownAnchor marks (sequence marks items) ++ anchorsOfItems items
  | mapping marks entries => ownAnchor marks (mapping marks entries) ++ anchorsOfEntries entries

/-- The anchors in the items of a sequence. -/
def anchorsOfItems : List Node → List (Nat × Node)
  | [] => []
  | item :: rest => anchors item ++ anchorsOfItems rest

/-- The anchors in the keys and values of a mapping. -/
def anchorsOfEntries : List (Node × Node) → List (Nat × Node)
  | [] => []
  | (key, value) :: rest => anchors key ++ anchors value ++ anchorsOfEntries rest

end

mutual

/-- The size of a node: a sequence or mapping counts at its start and at its end. -/
def size : Node → Nat
  | reference _ => 1
  | scalar _ _ _ => 1
  | sequence _ items => sizeOfItems items + 2
  | mapping _ entries => sizeOfEntries entries + 2

/-- The size of the items of a sequence. -/
def sizeOfItems : List Node → Nat
  | [] => 0
  | item :: rest => size item + sizeOfItems rest

/-- The size of the keys and values of a mapping. -/
def sizeOfEntries : List (Node × Node) → Nat
  | [] => 0
  | (key, value) :: rest => size key + size value + sizeOfEntries rest

end

end Node

end BareMetal.Yaml

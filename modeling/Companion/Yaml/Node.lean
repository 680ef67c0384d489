import Companion.Yaml.Token

/-!
# Nodes

A document is a tree of scalars, sequences and mappings. A node may carry an anchor, by whose number
aliases refer to it, and a tag.
-/

namespace Companion.Yaml

/-- What a node carries besides its content. -/
structure Marks where
  anchor : Option Nat := none
  tag : Option Octets := none
deriving DecidableEq, Repr

inductive Node where
  | scalar (marks : Marks) (style : Style) (text : String)
  | sequence (marks : Marks) (items : List Node)
  | mapping (marks : Marks) (entries : List (Node × Node))
  | alias (anchor : Nat)
deriving Repr, Inhabited

namespace Node

def anchor? : Node → Option Nat
  | .scalar marks _ _ => marks.anchor
  | .sequence marks _ => marks.anchor
  | .mapping marks _ => marks.anchor
  | .alias _ => none

def anchoredSelf (node : Node) : List (Nat × Node) :=
  (node.anchor?.map fun anchor => (anchor, node)).toList

mutual

/-- The nodes with an anchor, in the order in which they begin. -/
def anchored : Node → List (Nat × Node)
  | .sequence marks items => anchoredSelf (.sequence marks items) ++ anchoredItems items
  | .mapping marks entries => anchoredSelf (.mapping marks entries) ++ anchoredEntries entries
  | node => anchoredSelf node

def anchoredItems : List Node → List (Nat × Node)
  | [] => []
  | item :: rest => item.anchored ++ anchoredItems rest

def anchoredEntries : List (Node × Node) → List (Nat × Node)
  | [] => []
  | (key, value) :: rest => key.anchored ++ value.anchored ++ anchoredEntries rest

end

mutual

/-- The number of signs that a node is made of: one for a scalar or an alias, and two for the ends
of a collection. -/
def size : Node → Nat
  | .sequence _ items => 2 + sizeOfItems items
  | .mapping _ entries => 2 + sizeOfEntries entries
  | .scalar _ _ _ | .alias _ => 1

def sizeOfItems : List Node → Nat
  | [] => 0
  | item :: rest => item.size + sizeOfItems rest

def sizeOfEntries : List (Node × Node) → Nat
  | [] => 0
  | (key, value) :: rest => key.size + value.size + sizeOfEntries rest

end

end Node

/-- A document: its root, and the nodes that aliases refer to, the last one of a number first. -/
structure Document where
  root : Node
  anchors : List (Nat × Node)

namespace Document

def ofRoot (root : Node) : Document :=
  { root, anchors := root.anchored.reverse }

def target? (document : Document) (anchor : Nat) : Option Node :=
  document.anchors.lookup anchor

def aliasLimit (document : Document) : Nat :=
  100 * document.root.size

end Document

end Companion.Yaml

/-!
# Trees of texts

A choice between texts is tried from the first one on, so an automaton for it that reads
single bytes can share the beginnings of texts only between two places where a text ends:
behind such a place a text that comes later starts new branches.
-/

namespace WindowPlacement.TitlePattern

/-- Texts as a tree of bytes.  The branches of a node are in several layers: a layer is
closed when a text ends at the node, and the last one is still open. -/
inductive LiteralTree
  | node (closed : List (List (Nat × LiteralTree))) (layer : List (Nat × LiteralTree))

namespace LiteralTree

def empty : LiteralTree :=
  .node [] []

/-- Change the branch of a byte, which is a new one if there is none yet.  Branches are in the
order of their bytes. -/
def alterBranch (byte : Nat) (change : LiteralTree → LiteralTree) :
    List (Nat × LiteralTree) → List (Nat × LiteralTree)
  | [] => [(byte, change empty)]
  | (b, branch) :: rest =>
    if byte < b then
      (byte, change empty) :: (b, branch) :: rest
    else if byte = b then
      (b, change branch) :: rest
    else
      (b, branch) :: alterBranch byte change rest

/-- Note that a text ends at a node.  Nothing more comes of it if that is all there is. -/
def close : LiteralTree → LiteralTree
  | .node closed layer =>
    if layer.isEmpty && !closed.isEmpty && closed.all List.isEmpty then
      .node closed layer
    else
      .node (closed ++ [layer]) []

def insert : List Nat → LiteralTree → LiteralTree
  | [], tree => tree.close
  | byte :: rest, .node closed layer => .node closed (alterBranch byte (insert rest) layer)

def ofTexts (texts : List (List Nat)) : LiteralTree :=
  texts.foldl (fun tree text => tree.insert text) empty

end LiteralTree

end WindowPlacement.TitlePattern

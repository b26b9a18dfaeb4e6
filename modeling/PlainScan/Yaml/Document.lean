import PlainScan.Yaml.Fault
import PlainScan.Yaml.Tag

namespace PlainScan.Yaml

/-!
# Documents

A node of a document may occur several times, even inside itself, so nodes are numbered and refer
to one another by number.

* `Node` — a scalar, a sequence or a mapping, under a tag.
* `Document` — numbered nodes, and which of them is the whole.
* `Document.setEntries`, `Document.retag` — changes of single nodes.
-/

/-- The number of a node. -/
abbrev NodeId := Nat

/-- A key and its value. -/
abbrev Entry := NodeId × NodeId

/-- A node. -/
inductive Node where
  | scalar (tag : Tag) (text : String)
  | seq (tag : Tag) (items : List NodeId)
  | map (tag : Tag) (entries : List Entry)
  deriving DecidableEq, Repr, Inhabited

namespace Node

/-- What stands where nothing is written. -/
def empty : Node := scalar .null ""

/-- The tag of a node. -/
def tag : Node → Tag
  | scalar tag _ => tag
  | seq tag _ => tag
  | map tag _ => tag

/-- The node under another tag. -/
def withTag (tag : Tag) : Node → Node
  | scalar _ text => scalar tag text
  | seq _ items => seq tag items
  | map _ entries => map tag entries

/-- The entries of a mapping. -/
def entries : Node → List Entry
  | map _ entries => entries
  | _ => []

end Node

/-- Numbered nodes, and the number of the one that is the whole. -/
structure Document where
  nodes : Array Node
  root : NodeId := 0
  deriving Repr, Inhabited

namespace Document

/-- The node of a number. -/
def node (d : Document) (id : NodeId) : Node := d.nodes.getD id .empty

/-- How many nodes there are. -/
def size (d : Document) : Nat := d.nodes.size

/-- Puts a node in the place of the one with its number. -/
def set (d : Document) (id : NodeId) (node : Node) : Document :=
  { d with nodes := d.nodes.setIfInBounds id node }

/-- Gives a mapping other entries. -/
def setEntries (d : Document) (id : NodeId) (entries : List Entry) : Document :=
  d.set id (.map (d.node id).tag entries)

/-- Gives a node another tag. -/
def retag (d : Document) (id : NodeId) (tag : Tag) : Document :=
  d.set id ((d.node id).withTag tag)

end Document

end PlainScan.Yaml

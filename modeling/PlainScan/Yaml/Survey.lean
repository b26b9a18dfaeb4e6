import PlainScan.Yaml.Merge
import PlainScan.Yaml.Scalar

namespace PlainScan.Yaml

/-!
# Looking for faults

Not every document has a value: keys must not be collections, the form of a node has to suit its
tag, and the text of a scalar its kind.  The nodes are looked at level by level, and the first fault
counts.

* `Document.scalarValue` — the value of a node whose tag is not that of a collection.
* `Survey` — the nodes that were seen, and those whose parts have not been looked at yet.
* `Document.surveyed` — the document with its mappings flattened, or its first fault.
-/

/-! ### Scalars -/

/-- The text of a node that stands for a scalar: a mapping may have it under the mark for a
    default value. -/
def Document.scalarText (d : Document) : Nat → NodeId → Except Fault String
  | 0, _ => .error .givenUp
  | fuel + 1, id =>
    match d.node id with
    | .scalar _ text => .ok text
    | .seq _ _ => .error .illFormed
    | .map _ entries =>
      match entries.find? fun e => (d.node e.1).tag == .default with
      | some e => scalarText d fuel e.2
      | none => .error .illFormed

/-- The value of a node whose tag is not that of a collection. -/
def Document.scalarValue (d : Document) (id : NodeId) : Except Fault Yaml :=
  match (d.node id).tag, d.node id with
  | .merge, _ | .default, _ | .unknown, _ => .error .illFormed
  | tag, .scalar _ text => tag.read text
  | tag, _ =>
    (d.scalarText (d.size + 1) id).bind fun text =>
      if tag = .timestamp then .error .givenUp else tag.read text

/-! ### Levels -/

/-- The nodes that were seen, and the collections whose parts have not been looked at yet, latest
    first. -/
structure Survey where
  document : Document
  seen : Array Bool
  waiting : List NodeId := []

namespace Survey

/-- The document before any of its nodes is seen. -/
def ofDocument (d : Document) : Survey := ⟨d, Array.replicate d.size false, []⟩

/-- Looks at a node for the first time, or passes it. -/
def visit (s : Survey) (id : NodeId) : Except Fault Survey :=
  if s.seen.getD id true then .ok s
  else
    let next := { s with seen := s.seen.setIfInBounds id true }
    if (s.document.node id).tag.isCollection then .ok { next with waiting := id :: s.waiting }
    else (s.document.scalarValue id).map fun _ => next

/-- Looks at a key, which must not be a collection, and at its value. -/
def visitEntry (s : Survey) (entry : Entry) : Except Fault Survey :=
  (s.visit entry.1).bind fun s =>
    if (s.document.node entry.1).tag.isCollection then .error .illFormed else s.visit entry.2

/-- Looks at an item that has to be a mapping of one entry. -/
def visitPair (s : Survey) (id : NodeId) : Except Fault Survey :=
  match s.document.node id with
  | .map _ [entry] => (s.visit entry.1).bind fun s => s.visit entry.2
  | _ => .error .illFormed

/-- Looks at the parts of a collection, which has to have the form of its tag. -/
def expand (s : Survey) (id : NodeId) : Except Fault Survey :=
  match (s.document.node id).tag, s.document.node id with
  | .seq, .seq _ items => items.foldlM visit s
  | .omap, .seq _ items | .pairs, .seq _ items => items.foldlM visitPair s
  | .map, .map _ _ | .set, .map _ _ =>
    (s.document.flatten (s.document.size + 1) id).bind fun d =>
      (d.node id).entries.foldlM visitEntry { s with document := d }
  | _, _ => .error .illFormed

/-- Looks at one level after another. -/
def levels : Nat → Survey → Except Fault Survey
  | 0, s => .ok s
  | fuel + 1, s =>
    if s.waiting.isEmpty then .ok s
    else (s.waiting.reverse.foldlM expand { s with waiting := [] }).bind (levels fuel)

end Survey

/-- The document with its mappings flattened, or its first fault. -/
def Document.surveyed (d : Document) : Except Fault Document :=
  (((Survey.ofDocument d).visit d.root).bind (Survey.levels (d.size + 1))).map (·.document)

end PlainScan.Yaml

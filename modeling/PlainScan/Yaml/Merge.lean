import PlainScan.Yaml.Document

namespace PlainScan.Yaml

/-!
# Merging mappings

The value of a merge mark is a mapping, or a sequence of mappings, whose entries a mapping takes
over; its own entries come after them, so that they count where both have a key.

* `mergedEntries` — the entries that a merge mark brings in.
* `Document.flatten` — a mapping without merge marks, with the entries that they bring in.
-/

/-- The mappings of which a sequence is made. -/
def flattenItems (flatten : NodeId → Document → Except Fault Document) :
    List NodeId → Document → Except Fault Document
  | [], d => .ok d
  | id :: rest, d =>
    match d.node id with
    | .map _ _ => (flatten id d).bind (flattenItems flatten rest)
    | _ => .error .illFormed

/-- The entries that a merge mark brings in, of several mappings those of earlier ones last; the
    mappings themselves are flattened first. -/
def mergedEntries (flatten : NodeId → Document → Except Fault Document) (value : NodeId)
    (d : Document) : Except Fault (List Entry × Document) :=
  match d.node value with
  | .map _ _ => (flatten value d).map fun d => ((d.node value).entries, d)
  | .seq _ items =>
    (flattenItems flatten items d).map fun d =>
      (items.reverse.flatMap fun id => (d.node id).entries, d)
  | .scalar _ _ => .error .illFormed

/-- The entries that are brought in, a mapping's own ones, latest first, and the document. -/
structure Flattening where
  merged : List Entry := []
  own : List Entry := []
  document : Document

/-- Deals with one entry of a mapping: a merge mark brings entries in, and the mark for a default
    value is an ordinary text as a key. -/
def Flattening.step (flatten : NodeId → Document → Except Fault Document) (f : Flattening)
    (entry : Entry) : Except Fault Flattening :=
  match (f.document.node entry.1).tag with
  | .merge =>
    (mergedEntries flatten entry.2 f.document).map fun (found, d) =>
      { f with merged := f.merged ++ found, document := d }
  | .default =>
    .ok { f with own := entry :: f.own, document := f.document.retag entry.1 .str }
  | _ => .ok { f with own := entry :: f.own }

/-- The document with a mapping flattened.  While that is being done the mapping has no entries, so
    one that merges itself gains nothing; mappings lie in one another at most `fuel` deep. -/
def Document.flatten : Nat → NodeId → Document → Except Fault Document
  | 0, _, _ => .error .givenUp
  | fuel + 1, id, d =>
    ((d.node id).entries.foldlM (Flattening.step (flatten fuel))
      { document := d.setEntries id [] }).map
      fun f => f.document.setEntries id (f.merged ++ f.own.reverse)

end PlainScan.Yaml

import PlainScan.Yaml.Composer
import PlainScan.Yaml.Survey

namespace PlainScan.Yaml

/-!
# Reading settings documents

* `Document.valueOf` — the value of a node.
* `Document.value` — the value of a document without faults.
* `read` — the value of a text, or why it has none.
-/

/-! ### Values of nodes -/

/-- The values of the nodes that are done, by number. -/
abbrev Valued := Array (Option Yaml)

namespace Document

/-- The value of a node; `around` are the nodes that it lies in, which stand for themselves. -/
def valueOf (d : Document) : Nat → List NodeId → NodeId → StateM Valued Yaml
  | 0, _, _ => return .null
  | fuel + 1, around, id => do
    if let some (some value) := (← get)[id]? then return value
    if around.contains id then return .enclosing (d.node id).tag.kindName
    let inner := valueOf d fuel (id :: around)
    let value ← match (d.node id).tag, d.node id with
      | .seq, .seq _ items => Yaml.seq <$> items.mapM inner
      | .map, .map _ entries =>
        Yaml.map <$> entries.mapM fun e => return (← inner e.1, ← inner e.2)
      | .set, .map _ entries => Yaml.set <$> entries.mapM fun e => inner e.1
      | .omap, .seq _ items | .pairs, .seq _ items =>
        Yaml.seq <$> items.mapM fun item =>
          Yaml.seq <$> ((d.node item).entries.flatMap fun e => [e.1, e.2]).mapM inner
      | _, _ => pure (((d.scalarValue id).toOption).getD .null)
    modify fun valued => valued.setIfInBounds id (some value)
    return value

/-- The value of a document without faults. -/
def value (d : Document) : Yaml :=
  ((d.valueOf (d.size + 1) [] d.root).run (Array.replicate d.size none)).1

end Document

/-! ### Documents -/

/-- The value of a text, or why it has none. -/
def read (text : List Char) : Except Fault Yaml := do
  let d ← Document.ofTokens (.ofText text)
  return (← d.surveyed).value

end PlainScan.Yaml

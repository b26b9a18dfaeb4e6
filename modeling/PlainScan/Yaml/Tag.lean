import PlainScan.Yaml.Basic

namespace PlainScan.Yaml

/-!
# Tags

The tag of a node says what kind of value it stands for.

* `Tag` — the tags of the common schema; all others are unknown.
* `Tag.ofText` — the tag that is written out.
* `Tag.isCollection` — whether the values of a tag hold others.
-/

/-- A tag.  `merge` and `default` mark keys with a meaning of their own; as values they have
    none. -/
inductive Tag where
  | null
  | bool
  | int
  | float
  | binary
  | timestamp
  | omap
  | pairs
  | set
  | str
  | seq
  | map
  | merge
  | default
  | unknown
  deriving DecidableEq, Repr, Inhabited

namespace Tag

/-- What the tags of the common schema start with. -/
def commonStart : String := "tag:yaml.org,2002:"

/-- The names of the tags of the common schema. -/
def names : List (String × Tag) :=
  [("null", null), ("bool", bool), ("int", int), ("float", float), ("binary", binary),
    ("timestamp", timestamp), ("omap", omap), ("pairs", pairs), ("set", set), ("str", str),
    ("seq", seq), ("map", map), ("merge", merge), ("value", default)]

/-- The tag that is written out. -/
def ofText (text : String) : Tag :=
  ((names.find? fun e => commonStart ++ e.1 == text).map (·.2)).getD unknown

/-- Whether the values of a tag hold others, so that they cannot be keys. -/
def isCollection : Tag → Bool
  | omap | pairs | set | seq | map => true
  | _ => false

/-- The word for the kind of the values of a tag that hold others. -/
def kindName : Tag → String
  | map => kindNameOf (.map [])
  | set => kindNameOf (.set [])
  | _ => kindNameOf (.seq [])
where
  kindNameOf (value : Yaml) : String := value.kindName

end Tag

end PlainScan.Yaml

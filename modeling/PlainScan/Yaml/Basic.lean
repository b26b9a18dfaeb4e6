import PlainScan.Json.Basic

namespace PlainScan

/-!
# Values of settings documents

* `Yaml` — the values a document can hold; bytes, dates and times are only known to be such.
* `Yaml.kindName` — the word for the kind of a value.
* `Yaml.settings?` — the named values of a mapping; the last one of a name counts.
-/

/-- A value of a settings document.  A value that contains itself stands, inside itself, for no
    more than the word for its kind. -/
inductive Yaml where
  | null
  | bool (value : Bool)
  | int (value : Int)
  | num (value : Binary64)
  | str (value : String)
  | bytes
  | date (withTime : Bool)
  | seq (items : List Yaml)
  | set (items : List Yaml)
  | map (entries : List (Yaml × Yaml))
  | enclosing (kind : String)
  deriving Inhabited

/-- Named values in order. -/
abbrev Settings := List (String × Yaml)

namespace Yaml

/-- The word for the kind of a value. -/
def kindName : Yaml → String
  | null => "NoneType"
  | bool _ => "bool"
  | int _ => "int"
  | num _ => "float"
  | str _ => "str"
  | bytes => "bytes"
  | date false => "date"
  | date true => "datetime"
  | seq _ => "list"
  | set _ => "set"
  | map _ => "dict"
  | enclosing kind => kind

/-- The text of a string value. -/
def str? : Yaml → Option String
  | str s => some s
  | _ => none

/-- The entries whose keys are strings; no other key names a setting. -/
def namedEntries (entries : List (Yaml × Yaml)) : Settings :=
  entries.filterMap fun e => (str? e.1).map fun name => (name, e.2)

/-- The named values of a mapping. -/
def settings? : Yaml → Option Settings
  | map entries => some (namedEntries entries)
  | _ => none

mutual

/-- The value of a document that corresponds to a JSON value. -/
def ofJson : Json → Yaml
  | .null => null
  | .bool b => bool b
  | .int n => int n
  | .num x => num x
  | .str s => str s
  | .arr items => seq (ofJsonItems items)
  | .obj fields => map (ofJsonFields fields)

/-- The items of an array. -/
def ofJsonItems : List Json → List Yaml
  | [] => []
  | value :: rest => ofJson value :: ofJsonItems rest

/-- The fields of an object. -/
def ofJsonFields : List (String × Json) → List (Yaml × Yaml)
  | [] => []
  | (key, value) :: rest => (str key, ofJson value) :: ofJsonFields rest

end

end Yaml

/-- The value of a name; the last one counts. -/
def Settings.get? (settings : Settings) (name : String) : Option Yaml :=
  (settings.reverse.find? fun e => e.1 == name).map (·.2)

end PlainScan

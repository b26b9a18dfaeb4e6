import PlainScan.Number.Binary64

namespace PlainScan

/-!
# JSON values

The values that tools, services and the language model hand over.

* `Json` — null, booleans, unbounded integers, binary numbers, strings, arrays and objects.
* `Fields.set`, `Fields.ofPairs` — an object keeps each key at its first position, with the
  value that came last.
* `Json.field?` — look-up of a key.
* `Json.holds` — whether a value says something: null, false, zero and the empty string, array
  and object do not.
-/

/-- A JSON value.  Numbers with a point or an exponent are kept apart from integers, and the
    fields of an object are in order. -/
inductive Json where
  | null
  | bool (value : Bool)
  | int (value : Int)
  | num (value : Binary64)
  | str (value : String)
  | arr (items : List Json)
  | obj (fields : List (String × Json))
  deriving Inhabited

/-- The fields of an object, in order. -/
abbrev Fields := List (String × Json)

/-! ### Fields -/

namespace Fields

/-- Replaces the value of a key, or adds the key at the end. -/
def set (fields : Fields) (key : String) (value : Json) : Fields :=
  match fields with
  | [] => [(key, value)]
  | (k, v) :: rest => if k == key then (k, value) :: rest else (k, v) :: set rest key value

/-- The fields that a sequence of pairs leaves behind. -/
def ofPairs (pairs : List (String × Json)) : Fields :=
  pairs.foldl (fun fields p => fields.set p.1 p.2) []

/-- The value of a key. -/
def get? (fields : Fields) (key : String) : Option Json :=
  (fields.find? fun p => p.1 == key).map (·.2)

end Fields

namespace Json

/-! ### Parts -/

/-- The value of a key, where the value is an object that has it. -/
def field? (value : Json) (key : String) : Option Json :=
  match value with
  | .obj fields => Fields.get? fields key
  | _ => none

/-- The value of a key; a missing key counts as null. -/
def fieldD (value : Json) (key : String) : Json := (value.field? key).getD .null

/-- The text of a string value. -/
def str? : Json → Option String
  | .str s => some s
  | _ => none

/-- The items of an array. -/
def arr? : Json → Option (List Json)
  | .arr items => some items
  | _ => none

/-- The fields of an object. -/
def obj? : Json → Option Fields
  | .obj fields => some fields
  | _ => none

/-- Whether the value is an object. -/
def isObject (value : Json) : Bool := value.obj?.isSome

/-! ### Emptiness -/

/-- Whether the value says something: null, false, zero and what is empty do not. -/
def holds : Json → Bool
  | .null => false
  | .bool b => b
  | .int n => n != 0
  | .num x => !x.isZero
  | .str s => !s.isEmpty
  | .arr items => !items.isEmpty
  | .obj fields => !fields.isEmpty

/-- The first value, unless it says nothing. -/
def orElse (value other : Json) : Json := if value.holds then value else other

/-- A value that is null where there is none. -/
def ofOption (value : Option Json) : Json := value.getD .null

/-- A string value, or null. -/
def ofString? (text : Option String) : Json := ofOption (text.map .str)

/-- An array of strings. -/
def ofStrings (texts : List String) : Json := .arr (texts.map .str)

/-- Only an object has fields. -/
theorem isObject_of_field? {value inner : Json} {key : String}
    (h : value.field? key = some inner) : value.isObject = true := by
  cases value with
  | obj fields => rfl
  | _ => cases h

theorem orElse_of_holds {value other : Json} (h : value.holds = true) :
    value.orElse other = value := by
  simp [orElse, h]

end Json

end PlainScan

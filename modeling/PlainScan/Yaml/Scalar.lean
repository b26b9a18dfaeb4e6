import PlainScan.Yaml.Form
import PlainScan.Yaml.Numeral

namespace PlainScan.Yaml

/-!
# Scalars

* `isBase64` — whether a text can be read as bytes.
* `Tag.read` — the value of a text under a tag.
-/

/-! ### Bytes -/

/-- Whether a character stands for six bits. -/
def isSextet (c : Char) : Bool := c.isAlphanum || c == '+' || c == '/'

/-- Whether the rest of a text completes its bytes: characters that stand for six bits come in
    fours, and a group may be cut short after two of them by signs that fill it up.  Other
    characters do not count.  `position` is the place in the group, `filled` the signs in a row. -/
def completesBytes (position filled : Nat) : List Char → Bool
  | [] => position == 0
  | c :: rest =>
    if c == '=' then
      if 2 ≤ position then
        position + filled + 1 ≥ 4 || completesBytes position (filled + 1) rest
      else completesBytes position filled rest
    else if isSextet c then completesBytes ((position + 1) % 4) 0 rest
    else completesBytes position filled rest

/-- Whether a text can be read as bytes. -/
def isBase64 (text : List Char) : Bool := text.all (·.toNat < 0x80) && completesBytes 0 0 text

/-! ### Values -/

/-- The words for the truth values in lower case. -/
def truthWords : List (String × Bool) :=
  [("yes", true), ("no", false), ("true", true), ("false", false), ("on", true), ("off", false)]

/-- The value of a date or a time. -/
def momentOf (text : String) : Except Fault Yaml :=
  match Moment.read? (dropFinalBreak text.toList) with
  | none => .error .givenUp
  | some m =>
    match m.fault? with
    | some fault => .error (.badValue fault)
    | none => .ok (.date m.clock.isSome)

/-- The value of a text under a tag. -/
def Tag.read (tag : Tag) (text : String) : Except Fault Yaml :=
  match tag with
  | .null => .ok .null
  | .bool =>
    match truthWords.lookup (Text.lowerString text) with
    | some b => .ok (.bool b)
    | none => .error .givenUp
  | .int => (integerOf text).map .int
  | .float => (floatOf text).map .num
  | .binary => if isBase64 text.toList then .ok .bytes else .error .illFormed
  | .timestamp => momentOf text
  | .str => .ok (.str text)
  | _ => .error .illFormed

end PlainScan.Yaml

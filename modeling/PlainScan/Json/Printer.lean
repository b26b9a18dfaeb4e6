import PlainScan.Json.Basic
import PlainScan.Number.Decimal
import PlainScan.Text.Surrogate

namespace PlainScan

/-!
# Writing JSON

Values are written in ASCII: other characters are escaped by their 16-bit units.

* `Json.quote` — a string with its quotes.
* `Json.compact` — a value on one line, without blanks.
* `Json.indented` — a value over several lines, two blanks to a level.
-/

namespace Json

/-! ### Strings -/

/-- A digit of a hexadecimal number, in lower case. -/
def hexChar (n : Nat) : Char :=
  if n < 10 then Char.ofNat (0x30 + n) else Char.ofNat (0x57 + n)

/-- The last `width` hexadecimal digits of a number. -/
def hexDigits : Nat → Nat → List Char
  | 0, _ => []
  | width + 1, n => hexDigits width (n / 16) ++ [hexChar (n % 16)]

/-- A 16-bit unit as an escape. -/
def unitEscape (unit : Nat) : List Char := '\\' :: 'u' :: hexDigits 4 unit

/-- A character inside a quoted string. -/
def escapeChar (c : Char) : List Char :=
  let n := Text.codePoint c
  if c == '"' then ['\\', '"']
  else if c == '\\' then ['\\', '\\']
  else if c == '\n' then ['\\', 'n']
  else if c == '\r' then ['\\', 'r']
  else if c == '\t' then ['\\', 't']
  else if n == 0x08 then ['\\', 'b']
  else if n == 0x0C then ['\\', 'f']
  else if 0x20 ≤ n && n ≤ 0x7E then [c]
  else if n < 0x10000 then unitEscape n
  else unitEscape (0xD800 + (n - 0x10000) / 0x400) ++ unitEscape (0xDC00 + (n - 0x10000) % 0x400)

/-- A string with its quotes. -/
def quote (text : String) : String :=
  "\"" ++ String.ofList (text.toList.flatMap escapeChar) ++ "\""

/-! ### Scalars -/

/-- A binary number; the infinities and what is not a number have words of their own. -/
def numberText : Binary64 → String
  | .nan => "NaN"
  | .infinite false => "Infinity"
  | .infinite true => "-Infinity"
  | x => x.text

/-- The words for the two truth values. -/
def boolText (b : Bool) : String := if b then "true" else "false"

/-! ### One line -/

mutual

/-- A value without blanks. -/
def compact : Json → String
  | .null => "null"
  | .bool b => boolText b
  | .int n => intText n
  | .num x => numberText x
  | .str s => quote s
  | .arr items => "[" ++ ",".intercalate (compactItems items) ++ "]"
  | .obj fields => "\x7b" ++ ",".intercalate (compactFields fields) ++ "\x7d"

/-- The items of an array. -/
def compactItems : List Json → List String
  | [] => []
  | value :: rest => compact value :: compactItems rest

/-- The fields of an object. -/
def compactFields : List (String × Json) → List String
  | [] => []
  | (key, value) :: rest => (quote key ++ ":" ++ compact value) :: compactFields rest

end

/-! ### Several lines -/

/-- A line break and the blanks that open a line at a level. -/
def lineBreak (level : Nat) : String := String.ofList ('\n' :: List.replicate (2 * level) ' ')

/-- The parts of an array or object, a line each, between its brackets. -/
def block (level : Nat) (opening closing : String) (parts : List String) : String :=
  if parts.isEmpty then opening ++ closing
  else
    opening ++ lineBreak (level + 1) ++ ("," ++ lineBreak (level + 1)).intercalate parts
      ++ lineBreak level ++ closing

mutual

/-- A value whose first line stands at the given level. -/
def indentedAt (level : Nat) : Json → String
  | .null => "null"
  | .bool b => boolText b
  | .int n => intText n
  | .num x => numberText x
  | .str s => quote s
  | .arr items => block level "[" "]" (indentedItems (level + 1) items)
  | .obj fields => block level "\x7b" "\x7d" (indentedFields (level + 1) fields)

/-- The items of an array at a level. -/
def indentedItems (level : Nat) : List Json → List String
  | [] => []
  | value :: rest => indentedAt level value :: indentedItems level rest

/-- The fields of an object at a level. -/
def indentedFields (level : Nat) : List (String × Json) → List String
  | [] => []
  | (key, value) :: rest =>
    (quote key ++ ": " ++ indentedAt level value) :: indentedFields level rest

end

/-- A value over several lines. -/
def indented (value : Json) : String := indentedAt 0 value

end Json

end PlainScan

import PlainScan.Json.Printer
import PlainScan.Text.Printable

namespace PlainScan

/-!
# Values inside messages

How a value of a tool report reads inside a message or an identifier: a string as it is, other
values in a form with capitalised words and quoted strings.

* `Json.displayQuoted` — a string in quotes, double ones only where that saves an escape.
* `Json.displayInner` — a value inside a list or an object.
* `Json.display` — a value by itself.
-/

namespace Json

/-! ### Quoted strings -/

/-- A character of a quoted string. -/
def displayChar (mark : Char) (c : Char) : List Char :=
  let n := Text.codePoint c
  if c == mark || c == '\\' then ['\\', c]
  else if c == '\n' then ['\\', 'n']
  else if c == '\r' then ['\\', 'r']
  else if c == '\t' then ['\\', 't']
  else if Text.isPrintable c then [c]
  else if n < 0x100 then '\\' :: 'x' :: hexDigits 2 n
  else if n < 0x10000 then '\\' :: 'u' :: hexDigits 4 n
  else '\\' :: 'U' :: hexDigits 8 n

/-- The quotes around a text: single ones, unless only those occur in it. -/
def displayMark (text : List Char) : Char :=
  if text.contains '\'' && !text.contains '"' then '"' else '\''

/-- A string in quotes. -/
def displayQuoted (text : String) : String :=
  let chars := text.toList
  let mark := displayMark chars
  String.ofList (mark :: (chars.flatMap (displayChar mark) ++ [mark]))

/-! ### Values -/

/-- The capitalised words for the truth values. -/
def displayBool (b : Bool) : String := if b then "True" else "False"

mutual

/-- A value inside a list or an object. -/
def displayInner : Json → String
  | .null => "None"
  | .bool b => displayBool b
  | .int n => intText n
  | .num x => x.text
  | .str s => displayQuoted s
  | .arr items => "[" ++ ", ".intercalate (displayItems items) ++ "]"
  | .obj fields => "\x7b" ++ ", ".intercalate (displayFields fields) ++ "\x7d"

/-- The items of a list. -/
def displayItems : List Json → List String
  | [] => []
  | value :: rest => displayInner value :: displayItems rest

/-- The fields of an object. -/
def displayFields : List (String × Json) → List String
  | [] => []
  | (key, value) :: rest =>
    (displayQuoted key ++ ": " ++ displayInner value) :: displayFields rest

end

/-- A value by itself: a string stands without quotes. -/
def display : Json → String
  | .str s => s
  | value => displayInner value

end Json

end PlainScan

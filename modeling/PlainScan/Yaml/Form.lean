import PlainScan.Pattern.Build
import PlainScan.Yaml.Moment
import PlainScan.Yaml.Tag

namespace PlainScan.Yaml

/-!
# Forms of plain scalars

A scalar without quotes and without a tag has the tag that its form tells.

* `integerForm`, `floatForm` — the forms of numbers.
* `isMomentForm` — the form of dates and times.
* `Tag.ofPlain` — the first tag whose form fits; a string otherwise.
-/

open Pattern

/-! ### Numbers -/

/-- Digits and underscores. -/
def isDigitMark (c : Char) : Bool := c.isDigit || c == '_'

/-- A sign, which may be missing. -/
def optSign : Pattern := opt (one (oneOf "+-"))

/-- A digit, and further ones with underscores among them. -/
def spacedDigits : Pattern := all [one Char.isDigit, run isDigitMark 0]

/-- A digit other than zero, and further ones with underscores among them. -/
def spacedNumber : Pattern := all [one (oneOf "123456789"), run isDigitMark 0]

/-- Places below sixty after colons, one at least. -/
def sixtiethPlaces : Pattern :=
  let place := all [literal ":", opt (one (oneOf "012345")), one Char.isDigit]
  all [place, star place]

/-- Integers: binary, octal, decimal, hexadecimal and to the base sixty. -/
def integerForm : Pattern :=
  all [optSign,
    any [all [literal "0b", run (oneOf "01_") 1], all [literal "0", run (oneOf "01234567_") 1],
      literal "0", spacedNumber, all [literal "0x", run (oneOf "0123456789abcdefABCDEF_") 1],
      all [spacedNumber, sixtiethPlaces]]]

/-- An exponent, which needs a sign. -/
def exponentForm : Pattern := all [one (oneOf "eE"), one (oneOf "+-"), run Char.isDigit 1]

/-- Numbers with a point, the infinities, and what is not a number. -/
def floatForm : Pattern :=
  any [all [optSign, spacedDigits, literal ".", run isDigitMark 0, opt exponentForm],
    all [literal ".", spacedDigits, opt exponentForm],
    all [optSign, spacedDigits, sixtiethPlaces, literal ".", run isDigitMark 0],
    all [optSign, any [literal ".inf", literal ".Inf", literal ".INF"]],
    any [literal ".nan", literal ".NaN", literal ".NAN"]]

/-- Whether a text has a form from its start to its end. -/
def hasForm (form : Pattern) (text : List Char) : Bool :=
  (form.ends (Cursor.start text)).any fun stop => stop.after.isEmpty

/-! ### Dates -/

/-- Whether a text is a date in ten characters, or a date with a time. -/
def isMomentForm (text : List Char) : Bool :=
  match Moment.read? text with
  | some m => m.clock.isSome || text.length = 10
  | none => false

/-! ### All forms -/

/-- The words for a truth value. -/
def boolWords : List String :=
  ["yes", "Yes", "YES", "no", "No", "NO", "true", "True", "TRUE", "false", "False", "FALSE", "on",
    "On", "ON", "off", "Off", "OFF"]

/-- The words for nothing; an empty text stands for it too. -/
def nullWords : List String := ["~", "null", "Null", "NULL"]

/-- The signs that cannot stand alone without quotes. -/
def bareSigns : List String := ["!", "&", "*"]

/-- The tag that a line tells. -/
def tagOfLine (line : List Char) : Tag :=
  let text := String.ofList line
  if boolWords.contains text then .bool
  else if hasForm floatForm line then .float
  else if hasForm integerForm line then .int
  else if text == "<<" then .merge
  else if nullWords.contains text then .null
  else if isMomentForm line then .timestamp
  else if text == "=" then .default
  else if bareSigns.contains text then .unknown
  else .str

/-- The text without a line feed at its end. -/
def dropFinalBreak (text : List Char) : List Char :=
  if text.getLast? == some '\n' then text.dropLast else text

/-- The tag that a text tells; a line feed at the end does not count. -/
def Tag.ofPlain (text : String) : Tag :=
  if text.isEmpty then .null else tagOfLine (dropFinalBreak text.toList)

end PlainScan.Yaml

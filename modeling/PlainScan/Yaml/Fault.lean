import PlainScan.Json.Display
import PlainScan.Json.Reader

namespace PlainScan.Yaml

/-!
# Faults of settings documents

* `ValueFault` — what is wrong with a value that has the form of its kind; `ValueFault.message`
  tells it.
* `Fault` — why a document has no value.
-/

/-! ### Values -/

/-- What is wrong with a value: a number may not be one or have too many digits, a character may
    not exist, and the parts of a date or a time may be out of their ranges. -/
inductive ValueFault where
  | badInteger (base : Nat) (text : String)
  | endlessInteger (digits : Nat)
  | badNumber (text : String)
  | badCharacter
  | badOffset (minutes : Int)
  | badYear (year : Nat)
  | badMonth
  | badDay
  | badHour
  | badMinute
  | badSecond
  deriving DecidableEq, Repr, Inhabited

/-- How many decimal digits an integer may have. -/
def integerLimit : Nat := 4300

/-- How much of a quoted text a message about an integer shows. -/
def shownLimit : Nat := 200

/-- A span of minutes in days and seconds; the seconds are never negative. -/
def spanText (minutes : Int) : String :=
  let seconds := Int.emod (minutes * 60) 86400
  "datetime.timedelta(days=" ++ intText (Int.ediv (minutes * 60) 86400)
    ++ (if seconds = 0 then "" else ", seconds=" ++ intText seconds) ++ ")"

/-- What the user is told about a value. -/
def ValueFault.message : ValueFault → String
  | badInteger base text =>
    "invalid literal for int() with base " ++ natText base ++ ": "
      ++ String.ofList ((Json.displayQuoted text).toList.take shownLimit)
  | endlessInteger digits =>
    "Exceeds the limit (" ++ natText integerLimit
      ++ " digits) for integer string conversion: value has " ++ natText digits
      ++ " digits; use sys.set_int_max_str_digits() to increase the limit"
  | badNumber text => "could not convert string to float: " ++ Json.displayQuoted text
  | badCharacter => "chr() arg not in range(0x110000)"
  | badOffset minutes =>
    "offset must be a timedelta strictly between -timedelta(hours=24) and timedelta(hours=24), "
      ++ "not " ++ spanText minutes ++ "."
  | badYear year => "year " ++ natText year ++ " is out of range"
  | badMonth => "month must be in 1..12"
  | badDay => "day is out of range for month"
  | badHour => "hour must be in 0..23"
  | badMinute => "minute must be in 0..59"
  | badSecond => "second must be in 0..59"

/-! ### Documents -/

/-- Why a document has no value: its form is wrong, one of its values is, or the reader gives up on
    it without a word. -/
inductive Fault where
  | illFormed
  | badValue (fault : ValueFault)
  | givenUp
  deriving DecidableEq, Repr, Inhabited

end PlainScan.Yaml

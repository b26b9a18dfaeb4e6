import PlainScan.Time.Calendar
import PlainScan.Yaml.Fault

namespace PlainScan.Yaml

/-!
# Dates and times

* `Moment` — a date, which a time of day and an offset may go along with, as they are written.
* `Moment.read?` — the moment that a text spells.
* `Moment.fault?` — the first part of a moment that is out of its range.
-/

/-- A time of day in hours, minutes and seconds, and an offset from universal time in minutes. -/
structure Clock where
  hour : Nat
  minute : Nat
  second : Nat
  offset : Int := 0
  deriving DecidableEq, Repr, Inhabited

/-- A date, and the time of day if there is one. -/
structure Moment where
  date : CalendarDate
  clock : Option Clock := none
  deriving DecidableEq, Repr, Inhabited

/-! ### Reading -/

/-- A number of at least `least` and at most `most` digits at the front of a text, and what
    follows it. -/
def takeNumeral? (least most : Nat) (text : List Char) : Option (Nat × List Char) :=
  let digits := (text.take most).takeWhile Char.isDigit
  if digits.length < least then none
  else some (Json.decimalNumber digits, text.drop digits.length)

/-- What follows a character. -/
def takeMark? (mark : Char) : List Char → Option (List Char)
  | c :: rest => if c == mark then some rest else none
  | [] => none

/-- Whether a character is a blank inside a line. -/
def isLineBlank (c : Char) : Bool := c == ' ' || c == '\t'

/-- What follows the letter or the blanks between a date and a time. -/
def takeTimeMark? : List Char → Option (List Char)
  | c :: rest =>
    if c == 'T' || c == 't' then some rest
    else if isLineBlank c then some (rest.dropWhile isLineBlank)
    else none
  | [] => none

/-- What follows the digits of a fraction of a second. -/
def dropFraction : List Char → List Char
  | '.' :: rest => rest.dropWhile Char.isDigit
  | rest => rest

/-- An offset after a sign, in minutes, at the end of a text. -/
def readShift? (text : List Char) : Option Nat := do
  let (hours, rest) ← takeNumeral? 1 2 text
  match rest with
  | [] => some (hours * 60)
  | ':' :: rest =>
    match ← takeNumeral? 2 2 rest with
    | (minutes, []) => some (hours * 60 + minutes)
    | _ => none
  | _ => none

/-- The offset at the end of a text, blanks before it included; no offset counts as zero. -/
def readZone? (text : List Char) : Option Int :=
  match text.dropWhile isLineBlank with
  | [] => if text.isEmpty then some 0 else none
  | ['Z'] => some 0
  | '+' :: rest => (readShift? rest).map fun n => (n : Int)
  | '-' :: rest => (readShift? rest).map fun n => -(n : Int)
  | _ => none

/-- A time of day with its offset. -/
def readClock? (text : List Char) : Option Clock := do
  let (hour, rest) ← takeNumeral? 1 2 text
  let (minute, rest) ← takeNumeral? 2 2 (← takeMark? ':' rest)
  let (second, rest) ← takeNumeral? 2 2 (← takeMark? ':' rest)
  let offset ← readZone? (dropFraction rest)
  return ⟨hour, minute, second, offset⟩

/-- The moment that a text spells. -/
def Moment.read? (text : List Char) : Option Moment := do
  let (year, rest) ← takeNumeral? 4 4 text
  let (month, rest) ← takeNumeral? 1 2 (← takeMark? '-' rest)
  let (day, rest) ← takeNumeral? 1 2 (← takeMark? '-' rest)
  if rest.isEmpty then return ⟨⟨year, month, day⟩, none⟩
  else return ⟨⟨year, month, day⟩, some (← readClock? (← takeTimeMark? rest))⟩

/-! ### Ranges -/

/-- The first part of a date that is out of its range. -/
def dateFault? (d : CalendarDate) : Option ValueFault :=
  if d.year < 1 then some (.badYear d.year)
  else if d.month < 1 || 12 < d.month then some .badMonth
  else if d.day < 1 || CalendarDate.daysInMonth d.year d.month < d.day then some .badDay
  else none

/-- The first part of a time that is out of its range, the offset aside. -/
def clockFault? (c : Clock) : Option ValueFault :=
  if 23 < c.hour then some .badHour
  else if 59 < c.minute then some .badMinute
  else if 59 < c.second then some .badSecond
  else none

/-- An offset has to be shorter than a day. -/
def offsetFault? (c : Clock) : Option ValueFault :=
  if 24 * 60 ≤ c.offset.natAbs then some (.badOffset c.offset) else none

/-- The first part of a moment that is out of its range: the offset is looked at first, then the
    date, then the time. -/
def Moment.fault? (m : Moment) : Option ValueFault :=
  (m.clock.bind offsetFault?).or ((dateFault? m.date).or (m.clock.bind clockFault?))

end PlainScan.Yaml

import PlainScan.Number.Decimal
import PlainScan.Time.Calendar

namespace PlainScan

/-!
# Instants

* `Instant` — a day, a time of day and, unless the instant is a local one, an offset from
  universal time.  Only offsets that do not change are meant: readings of a zone that changes its
  offset are compared by the clock on the wall.
* `Instant.reaches?` — whether one instant is at or after another; a local instant and one with
  an offset cannot be compared.
* `Instant.nextMidnight?` — the start of the next day in the same offset.
* `Instant.text` — the written form; `Instant.ofText?` reads it.
-/

/-- An instant.  The time of day and the offset are in microseconds. -/
structure Instant where
  day : Nat
  timeOfDay : Nat
  offset : Option Int
  deriving DecidableEq, Repr, Inhabited

namespace Instant

/-! ### Order -/

/-- The microseconds of a day. -/
def dayLength : Nat := 86400000000

/-- The microseconds since day zero, by the clock of the instant itself. -/
def localTime (i : Instant) : Int := i.day * dayLength + i.timeOfDay

/-- The microseconds since day zero in universal time; a local instant counts as it stands. -/
def universalTime (i : Instant) : Int := i.localTime - i.offset.getD 0

/-- Whether the first instant is at or after the second one. -/
def reaches? (i j : Instant) : Option Bool :=
  if i.offset.isSome == j.offset.isSome then some (decide (j.universalTime ≤ i.universalTime))
  else none

/-- The start of the next day in the same offset, as long as that day has a date. -/
def nextMidnight? (i : Instant) : Option Instant :=
  if i.day < CalendarDate.lastDay then some ⟨i.day + 1, 0, i.offset⟩ else none

/-- The instant a number of seconds and microseconds after the start of the year 1970, in
    universal time. -/
def ofEpoch (seconds microseconds : Nat) : Instant :=
  ⟨CalendarDate.toDay ⟨1970, 1, 1⟩ + seconds / 86400, seconds % 86400 * 1000000 + microseconds,
    some 0⟩

/-! ### Writing -/

/-- A time in hours, minutes and seconds, with microseconds if there are any. -/
def clockText (microseconds : Nat) : String :=
  let seconds := microseconds / 1000000
  let fraction := microseconds % 1000000
  padZeros 2 (seconds / 3600) ++ ":" ++ padZeros 2 (seconds / 60 % 60) ++ ":"
    ++ padZeros 2 (seconds % 60)
    ++ if fraction = 0 then "" else "." ++ padZeros 6 fraction

/-- An offset: a sign, hours and minutes, and smaller units only where they are needed. -/
def offsetText (offset : Int) : String :=
  let size := offset.natAbs
  let sign := if offset < 0 then "-" else "+"
  let minutes := padZeros 2 (size / 3600000000) ++ ":" ++ padZeros 2 (size / 60000000 % 60)
  sign ++ if size % 60000000 = 0 then minutes else clockText size

/-- The written form of an instant. -/
def text (i : Instant) : String :=
  let date := CalendarDate.ofDay i.day
  padZeros 4 date.year ++ "-" ++ padZeros 2 date.month ++ "-" ++ padZeros 2 date.day ++ "T"
    ++ clockText i.timeOfDay
    ++ match i.offset with
      | none => ""
      | some offset => offsetText offset

/-! ### Reading -/

/-- A number of exactly `width` digits at the front of a text, and what follows it. -/
def takeFixed? (width : Nat) (text : List Char) : Option (Nat × List Char) :=
  let digits := text.take width
  if digits.length = width && digits.all Char.isDigit then
    some (digits.foldl (fun n c => n * 10 + (c.toNat - '0'.toNat)) 0, text.drop width)
  else none

/-- A number of exactly `width` digits after a mark; nothing is read where the mark is missing. -/
def takeAfter? (mark : Char) (width : Nat) : List Char → Option (Nat × List Char)
  | c :: rest => if c == mark then takeFixed? width rest else some (0, c :: rest)
  | [] => some (0, [])

/-- A fraction of a second after a point, in microseconds. -/
def takeMicroseconds? : List Char → Option (Nat × List Char)
  | '.' :: rest =>
    let digits := rest.takeWhile Char.isDigit
    if digits.isEmpty then none
    else
      (takeFixed? 6 (digits.take 6 ++ List.replicate (6 - digits.length) '0')).map
        fun (n, _) => (n, rest.dropWhile Char.isDigit)
  | rest => some (0, rest)

/-- A time of day in microseconds, and what follows it. -/
def takeClock? (text : List Char) : Option (Nat × List Char) := do
  let (hours, rest) ← takeFixed? 2 text
  let (minutes, rest) ← takeAfter? ':' 2 rest
  let (seconds, rest) ← takeAfter? ':' 2 rest
  let (fraction, rest) ← takeMicroseconds? rest
  pure (((hours * 60 + minutes) * 60 + seconds) * 1000000 + fraction, rest)

/-- An offset at the end of a text; an empty text means a local instant. -/
def readOffset? : List Char → Option (Option Int)
  | [] => some none
  | ['Z'] => some (some 0)
  | c :: rest =>
    match takeClock? rest with
    | some (size, []) =>
      if c == '+' then some (some size) else if c == '-' then some (some (-size)) else none
    | _ => none

/-- The instant that a text gives: a date, a letter between, a time and an offset. -/
def ofText? (text : String) : Option Instant := do
  let (year, rest) ← takeFixed? 4 text.toList
  let (month, rest) ← takeAfter? '-' 2 rest
  let (day, rest) ← takeAfter? '-' 2 rest
  let (clock, rest) ← takeClock? (rest.drop 1)
  let offset ← readOffset? rest
  let date : CalendarDate := ⟨year, month, day⟩
  if date.isValid && clock < dayLength then some ⟨date.toDay, clock, offset⟩ else none

end Instant

end PlainScan

import PlainScan.Json.Basic
import PlainScan.Text.Surrogate

namespace PlainScan

/-!
# Reading JSON

A reader of JSON texts.  Beyond the standard it takes the words `NaN`, `Infinity` and
`-Infinity` as numbers; control characters inside strings are refused.  It goes through a text from
left to right and stops at the first fault, or where it meets one of its limits: it takes no integer
of too many digits, and no arrays and objects too deep inside each other.

* `Json.takeString` — the raw inside of a string, up to the quote that closes it.
* `Json.unescape` — the characters that the inside of a string stands for.
* `Json.takeNumber` — the longest number at the front of a text.
* `Json.ReadLimit`, `Json.ReadFault` — the limits of the reader, and why a text has no value.
* `Json.loadValue` — one value at the front of a text, and what follows it.
* `Json.load` — a whole text; `Json.attempt` passes over malformed texts, but not over limits.
-/

namespace Json

/-! ### Blanks -/

/-- The four characters that may stand between the parts of a JSON text. -/
def isSpace (c : Char) : Bool := c == ' ' || c == '\t' || c == '\n' || c == '\r'

/-- The text from its first character that is no space. -/
def skipSpaces (text : List Char) : List Char := text.dropWhile isSpace

/-! ### Strings -/

/-- The raw inside of a string up to its closing quote, and what follows the quote.  A backslash
    protects the character after it. -/
def takeString : List Char → Option (List Char × List Char)
  | [] => none
  | '"' :: rest => some ([], rest)
  | '\\' :: c :: rest => (takeString rest).map fun (raw, after) => ('\\' :: c :: raw, after)
  | c :: rest => (takeString rest).map fun (raw, after) => (c :: raw, after)

/-- The value of a hexadecimal digit. -/
def hexDigit? (c : Char) : Option Nat :=
  let n := c.toNat
  if 0x30 ≤ n && n ≤ 0x39 then some (n - 0x30)
  else if 0x41 ≤ n && n ≤ 0x46 then some (n - 0x37)
  else if 0x61 ≤ n && n ≤ 0x66 then some (n - 0x57)
  else none

/-- The number that hexadecimal digits spell. -/
def hexNumber? (digits : List Char) : Option Nat :=
  digits.foldl (fun n c => n.bind fun n => (hexDigit? c).map (n * 16 + ·)) (some 0)

/-- The code of a one-letter escape. -/
def shortEscape? (c : Char) : Option Nat :=
  match c with
  | '"' => some 0x22
  | '\\' => some 0x5C
  | '/' => some 0x2F
  | 'b' => some 0x08
  | 'f' => some 0x0C
  | 'n' => some 0x0A
  | 'r' => some 0x0D
  | 't' => some 0x09
  | _ => none

/-- The codes that the inside of a string stands for; halves of a pair are still apart. -/
def unescapeCodes : List Char → Option (List Nat)
  | [] => some []
  | '\\' :: 'u' :: a :: b :: c :: d :: rest =>
    match hexNumber? [a, b, c, d], unescapeCodes rest with
    | some n, some codes => some (n :: codes)
    | _, _ => none
  | '\\' :: c :: rest =>
    match shortEscape? c, unescapeCodes rest with
    | some n, some codes => some (n :: codes)
    | _, _ => none
  | c :: rest =>
    if c.toNat < 0x20 || c == '\\' then none
    else (unescapeCodes rest).map (c.toNat :: ·)

/-- The character of a code; another one takes the place of a lone half of a pair. -/
def charOfCode (n : Nat) : Char :=
  if 0xD800 ≤ n && n ≤ 0xDFFF then Text.lone n else Char.ofNat n

/-- Joins the two halves of a pair. -/
def joinPairs : List Nat → List Char
  | [] => []
  | high :: low :: rest =>
    if 0xD800 ≤ high && high ≤ 0xDBFF && 0xDC00 ≤ low && low ≤ 0xDFFF then
      Char.ofNat (0x10000 + (high - 0xD800) * 0x400 + (low - 0xDC00)) :: joinPairs rest
    else charOfCode high :: joinPairs (low :: rest)
  | [n] => [charOfCode n]

/-- The characters that the inside of a string stands for. -/
def unescape (raw : List Char) : Option (List Char) := (unescapeCodes raw).map joinPairs

/-- The string whose opening quote has been read, and what follows it. -/
def readString (text : List Char) : Option (String × List Char) :=
  match takeString text with
  | none => none
  | some (raw, after) => (unescape raw).map fun chars => (String.ofList chars, after)

/-! ### Numbers -/

/-- The number that decimal digits spell. -/
def decimalNumber (digits : List Char) : Nat :=
  digits.foldl (fun n c => n * 10 + (c.toNat - '0'.toNat)) 0

/-- The digits at the front of a text, and what follows them. -/
def takeDigits (text : List Char) : List Char × List Char :=
  (text.takeWhile Char.isDigit, text.dropWhile Char.isDigit)

/-- The whole part of a number: a zero alone, or digits that start with another one. -/
def takeWhole : List Char → Option (List Char × List Char)
  | '0' :: rest => some (['0'], rest)
  | text =>
    let (digits, rest) := takeDigits text
    if digits.isEmpty then none else some (digits, rest)

/-- The digits after a point; a point without digits is not part of the number. -/
def takeFraction : List Char → Option (List Char × List Char)
  | '.' :: rest =>
    let (digits, after) := takeDigits rest
    if digits.isEmpty then none else some (digits, after)
  | _ => none

/-- A sign and what follows it. -/
def takeSign : List Char → Bool × List Char
  | '-' :: rest => (true, rest)
  | '+' :: rest => (false, rest)
  | rest => (false, rest)

/-- The exponent; the letter without digits is not part of the number. -/
def takeExponent : List Char → Option (Int × List Char)
  | c :: rest =>
    if c == 'e' || c == 'E' then
      let (negative, rest) := takeSign rest
      let (digits, after) := takeDigits rest
      if digits.isEmpty then none
      else
        let n : Int := decimalNumber digits
        some (if negative then -n else n, after)
    else none
  | [] => none

/-- The longest number at the front of a text whose sign has been read. -/
def takeNumber (negative : Bool) (text : List Char) : Option (Json × List Char) :=
  match takeWhole text with
  | none => none
  | some (whole, rest) =>
    let fraction := takeFraction rest
    let rest := (fraction.map (·.2)).getD rest
    let exponent := takeExponent rest
    let rest := (exponent.map (·.2)).getD rest
    if fraction.isNone && exponent.isNone then
      let n : Int := decimalNumber whole
      some (.int (if negative then -n else n), rest)
    else
      let places := (fraction.map (·.1)).getD []
      let power := ((exponent.map (·.1)).getD 0) - places.length
      some (.num (Binary64.ofDecimal negative (decimalNumber (whole ++ places)) power), rest)

/-! ### Words -/

/-- What follows a word at the front of a text. -/
def takeWord (word text : List Char) : Option (List Char) :=
  if word.isPrefixOf text then some (text.drop word.length) else none

/-- The words that stand for values. -/
def words : List (String × Json) :=
  [("null", .null), ("true", .bool true), ("false", .bool false), ("NaN", .num .nan),
    ("Infinity", .num (.infinite false)), ("-Infinity", .num (.infinite true))]

/-! ### Limits -/

/-- What the reader does not go beyond: the digits of an integer, and the number of arrays and
    objects inside each other. -/
inductive ReadLimit where
  | digits
  | nesting
  deriving DecidableEq, Repr, Inhabited

/-- Why a text has no value: it is malformed, or a limit was met before that could be told. -/
inductive ReadFault where
  | malformed
  | beyond (limit : ReadLimit)
  deriving DecidableEq, Repr, Inhabited

/-- The digits of the longest integer that is read.  A number with a point or an exponent may have
    more of them. -/
def digitLimit : Nat := 4300

/-- How many arrays and objects may stand inside each other before the calls of the reader do not
    fit on the stack.  How many that are depends on the calls that were made before, so no general
    statement rests on the number. -/
def nestingLimit : Nat := 985

/-- What was found, or the fault of a text in which there is nothing to find. -/
def orMalformed : Option α → Except ReadFault α
  | some found => .ok found
  | none => .error .malformed

/-- Whether the number at the front of a text is an integer of too many digits. -/
def isTooLong (text : List Char) : Bool :=
  match takeWhole text with
  | some (whole, rest) =>
    digitLimit < whole.length && (takeFraction rest).isNone && (takeExponent rest).isNone
  | none => false

/-! ### Scalars -/

/-- The longest number at the front of a text whose sign has been read. -/
def loadNumber (negative : Bool) (text : List Char) : Except ReadFault (Json × List Char) :=
  if isTooLong text then .error (.beyond .digits) else orMalformed (takeNumber negative text)

/-- A word at the front of a text that stands for a value. -/
def readWord (text : List Char) : Option (Json × List Char) :=
  words.findSome? fun (word, value) => (takeWord word.toList text).map (value, ·)

/-- A word or a number at the front of a text. -/
def loadScalar (text : List Char) : Except ReadFault (Json × List Char) :=
  match readWord text with
  | some found => .ok found
  | none =>
    match text with
    | '-' :: rest => loadNumber true rest
    | _ => loadNumber false text

/-! ### Values -/

mutual

/-- One value at the front of a text, and what follows it.  As many arrays and objects may be inside
    each other as `depth` says. -/
def loadValue : Nat → Nat → List Char → Except ReadFault (Json × List Char)
  | 0, _, _ => .error .malformed
  | fuel + 1, depth, text =>
    match text with
    | '"' :: rest => orMalformed ((readString rest).map fun (s, after) => (.str s, after))
    | '[' :: rest =>
      match depth with
      | 0 => .error (.beyond .nesting)
      | depth + 1 =>
        match skipSpaces rest with
        | ']' :: after => .ok (.arr [], after)
        | inside => (loadItems fuel depth inside).map fun (items, after) => (.arr items, after)
    | '\x7b' :: rest =>
      match depth with
      | 0 => .error (.beyond .nesting)
      | depth + 1 =>
        match skipSpaces rest with
        | '\x7d' :: after => .ok (.obj [], after)
        | inside =>
          (loadMembers fuel depth inside).map
            fun (pairs, after) => (.obj (Fields.ofPairs pairs), after)
    | text => loadScalar text

/-- The items of an array from one that must be there, through the bracket that closes it. -/
def loadItems : Nat → Nat → List Char → Except ReadFault (List Json × List Char)
  | 0, _, _ => .error .malformed
  | fuel + 1, depth, text =>
    match loadValue fuel depth text with
    | .error fault => .error fault
    | .ok (value, rest) =>
      match skipSpaces rest with
      | ',' :: more =>
        (loadItems fuel depth (skipSpaces more)).map fun (items, after) => (value :: items, after)
      | ']' :: after => .ok ([value], after)
      | _ => .error .malformed

/-- The members of an object from one that must be there, through the brace that closes it. -/
def loadMembers : Nat → Nat → List Char → Except ReadFault (List (String × Json) × List Char)
  | 0, _, _ => .error .malformed
  | fuel + 1, depth, text =>
    match text with
    | '"' :: rest =>
      match readString rest with
      | none => .error .malformed
      | some (key, rest) =>
        match skipSpaces rest with
        | ':' :: rest =>
          match loadValue fuel depth (skipSpaces rest) with
          | .error fault => .error fault
          | .ok (value, rest) =>
            match skipSpaces rest with
            | ',' :: more =>
              (loadMembers fuel depth (skipSpaces more)).map
                fun (pairs, after) => ((key, value) :: pairs, after)
            | '\x7d' :: after => .ok ([(key, value)], after)
            | _ => .error .malformed
        | _ => .error .malformed
    | _ => .error .malformed

end

/-! ### Texts -/

/-- Enough steps for a text: no two of them leave the text as it is. -/
def readFuel (text : List Char) : Nat := 2 * text.length + 2

/-- The value that a whole text stands for, spaces around it aside. -/
def load (text : List Char) : Except ReadFault Json :=
  match loadValue (readFuel text) nestingLimit (skipSpaces text) with
  | .ok (value, rest) => if (skipSpaces rest).isEmpty then .ok value else .error .malformed
  | .error fault => .error fault

/-- The value of a text, or nothing where it is malformed; a limit is not passed over. -/
def attempt (text : List Char) : Except ReadLimit (Option Json) :=
  match load text with
  | .ok value => .ok (some value)
  | .error .malformed => .ok none
  | .error (.beyond limit) => .error limit

/-- The value of a string, or nothing where it is malformed. -/
def attemptText (text : String) : Except ReadLimit (Option Json) := attempt text.toList

end Json

end PlainScan

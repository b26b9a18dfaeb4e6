import PlainScan.Text.Digit
import PlainScan.Text.LowerCase
import PlainScan.Text.Pieces
import PlainScan.Yaml.Fault

namespace PlainScan.Yaml

/-!
# Numerals

What the text of a number amounts to, once its tag is known.  Underscores between the digits do
not count, and colons separate places to the base sixty.

* `readWhole` — an integer to a base, blanks around it aside.
* `readPointed` — a number with a point and an exponent, or a word for one that is not finite.
* `integerOf`, `floatOf` — the numbers of scalars.
-/

/-! ### Signs, blanks and digits -/

/-- The blanks that may stand around a numeral. -/
def isNumeralBlank (c : Char) : Bool := c == ' ' || (0x09 ≤ c.toNat && c.toNat ≤ 0x0D)

/-- Whether a sign is a minus, and the text after the sign. -/
def splitSign : List Char → Bool × List Char
  | '-' :: rest => (true, rest)
  | '+' :: rest => (false, rest)
  | rest => (false, rest)

/-- The value of a digit to bases up to sixteen, if it is below the base. -/
def digitBelow? (base : Nat) (c : Char) : Option Nat :=
  (Json.hexDigit? c).filter (· < base)

/-- The number that digits spell in a base. -/
def numberIn (base : Nat) (digits : List Char) : Nat :=
  digits.foldl (fun n c => n * base + (digitBelow? base c).getD 0) 0

/-- The text without underscores. -/
def dropMarks (text : List Char) : List Char := text.filter (· != '_')

/-! ### Integers -/

/-- The letter after a zero that tells a base. -/
def baseLetter? : Nat → Option Char
  | 2 => some 'b'
  | 8 => some 'o'
  | 16 => some 'x'
  | _ => none

/-- The text without a zero and a letter that tell the base. -/
def dropBase (base : Nat) (text : List Char) : List Char :=
  match text, baseLetter? base with
  | '0' :: c :: rest, some letter => if c.toLower == letter then rest else text
  | _, _ => text

/-- The integer to a base that a text spells.  Only decimal digits are limited in number. -/
def readWhole (base : Nat) (text : List Char) : Except ValueFault Int :=
  let (negative, unsigned) := splitSign ((Text.plainNumeral text).dropWhile isNumeralBlank)
  let rest := dropBase base unsigned
  let digits := rest.takeWhile fun c => (digitBelow? base c).isSome
  if base = 10 && integerLimit < digits.length then .error (.endlessInteger digits.length)
  else if digits.isEmpty || !(rest.drop digits.length).all isNumeralBlank then
    .error (.badInteger base (String.ofList text))
  else
    let n : Int := numberIn base digits
    .ok (if negative then -n else n)

/-- The number that places to the base sixty spell. -/
def sixtieths (places : List Int) : Int := places.foldl (fun n place => n * 60 + place) 0

/-- The integer of a text without underscores and sign. -/
def unsignedInteger : List Char → Except Fault Int
  | [] => .error .givenUp
  | ['0'] => .ok 0
  | '0' :: 'b' :: digits => (readWhole 2 digits).mapError .badValue
  | '0' :: 'x' :: digits => (readWhole 16 digits).mapError .badValue
  | '0' :: digits => (readWhole 8 ('0' :: digits)).mapError .badValue
  | text => (((Text.pieces ':' text).mapM (readWhole 10)).map sixtieths).mapError .badValue

/-- The integer of a scalar. -/
def integerOf (text : String) : Except Fault Int :=
  let (negative, rest) := splitSign (dropMarks text.toList)
  (unsignedInteger rest).map fun n => if negative then -n else n

/-! ### Numbers with a point -/

/-- The words for numbers that are not finite. -/
def unboundedWords : List (String × Binary64) :=
  [("inf", .infinite false), ("infinity", .infinite false), ("nan", .nan)]

/-- The exponent at the end of a numeral; no exponent counts as zero. -/
def readExponent? : List Char → Option Int
  | [] => some 0
  | c :: rest =>
    let (negative, digits) := splitSign rest
    if (c == 'e' || c == 'E') && !digits.isEmpty && digits.all Char.isDigit then
      let n : Int := numberIn 10 digits
      some (if negative then -n else n)
    else none

/-- The number of a numeral without sign and blanks. -/
def readMagnitude? (text : List Char) : Option Binary64 :=
  let whole := text.takeWhile Char.isDigit
  let (places, rest) := match text.dropWhile Char.isDigit with
    | '.' :: rest => (rest.takeWhile Char.isDigit, rest.dropWhile Char.isDigit)
    | rest => ([], rest)
  if whole.isEmpty && places.isEmpty then
    unboundedWords.lookup (String.ofList (text.map Char.toLower))
  else
    (readExponent? rest).map fun exponent =>
      .ofDecimal false (numberIn 10 (whole ++ places)) (exponent - places.length)

/-- The text without the blanks around it. -/
def trimNumeral (text : List Char) : List Char :=
  ((text.dropWhile isNumeralBlank).reverse.dropWhile isNumeralBlank).reverse

/-- The number that a text spells. -/
def readPointed (text : List Char) : Except ValueFault Binary64 :=
  let (negative, rest) := splitSign (trimNumeral (Text.plainNumeral text))
  match readMagnitude? rest with
  | some x => .ok (if negative then x.negate else x)
  | none => .error (.badNumber (String.ofList text))

/-- Adds a place to the sum of those after it; `worth` is what a one in the place is worth, which
    has to be a number of the format. -/
def addPlace (place : Binary64) : Binary64 × Nat → Except Fault (Binary64 × Nat)
  | (sum, worth) =>
    match Binary64.ofInt worth with
    | .finite s units => .ok (sum.add (place.mul (.finite s units)), worth * 60)
    | _ => .error .givenUp

/-- The number that places to the base sixty spell, added up from the last one. -/
def sumPlaces (places : List Binary64) : Except Fault Binary64 := do
  let (sum, _) ← places.reverse.foldlM (fun sum place => addPlace place sum) (Binary64.zero, 1)
  return sum

/-- The number of a text without underscores and sign, in lower case. -/
def unsignedFloat (text : List Char) : Except Fault Binary64 :=
  if text == ".inf".toList then .ok (.infinite false)
  else if text == ".nan".toList then .ok .nan
  else if text.contains ':' then
    ((Text.pieces ':' text).mapM readPointed).mapError .badValue |>.bind sumPlaces
  else (readPointed text).mapError .badValue

/-- The number of a scalar. -/
def floatOf (text : String) : Except Fault Binary64 :=
  match Text.lower (dropMarks text.toList) with
  | [] => .error .givenUp
  | text =>
    let (negative, rest) := splitSign text
    (unsignedFloat rest).map fun x => if negative then x.negate else x

end PlainScan.Yaml

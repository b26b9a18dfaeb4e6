import PlainScan.Json.Reader

namespace PlainScan.Console

/-!
# The words of constants

A constant is a value that is written out.  Its text is cut into numbers, quoted texts, words and
single marks; blanks, comments and the line ends within brackets only part them.

* `ConstantToken` — one word of a constant.
* `constantTokens?` — the words of a text, if each of them is well formed.
-/

/-- A word of a constant: a number, which may stand for a multiple of the imaginary unit, a quoted
    text or bytes, a word, a single mark, or a line end outside of all brackets. -/
inductive ConstantToken where
  | number (imaginary : Bool)
  | quoted (bytes : Bool)
  | word (name : String)
  | mark (c : Char)
  | lineEnd
  deriving DecidableEq, Repr, Inhabited

namespace ConstantToken

/-! ### Numbers -/

/-- Whether a character can continue a word. -/
def isNameChar (c : Char) : Bool := c.isAlphanum || c == '_' || 0x80 ≤ c.toNat

/-- Whether a character is a digit to a base up to sixteen. -/
def isDigitTo (base : Nat) (c : Char) : Bool := (Json.hexDigit? c).any (· < base)

/-- Digits to a base, between which a single underscore may stand, and what follows them. -/
def takeGrouped (base : Nat) : List Char → List Char × List Char
  | [] => ([], [])
  | c :: rest =>
    if isDigitTo base c || (c == '_' && rest.head?.any (isDigitTo base)) then
      let (digits, rest) := takeGrouped base rest
      (c :: digits, rest)
    else ([], c :: rest)

/-- The base that the letter after a zero tells. -/
def baseOf? (letter : Char) : Option Nat :=
  [('x', 16), ('o', 8), ('b', 2)].lookup letter.toLower

/-- What follows the fraction at the front of a text, if one stands there. -/
def afterFraction? : List Char → Option (List Char)
  | '.' :: '_' :: rest => some ('_' :: rest)
  | '.' :: rest => some (takeGrouped 10 rest).2
  | _ => none

/-- What follows the exponent at the front of a text, if one stands there. -/
def afterExponent? : List Char → Option (List Char)
  | c :: rest =>
    let digits := match rest with
      | '+' :: rest | '-' :: rest => rest
      | _ => rest
    if c.toLower == 'e' && digits.head?.any Char.isDigit then some (takeGrouped 10 digits).2
    else none
  | [] => none

/-- The number of digits that an integer may have. -/
def longestInteger : Nat := 4300

/-- Whether the digits of an integer are as they should be: a zero leads only zeros. -/
def isInteger (digits : List Char) : Bool :=
  let digits := digits.filter (· != '_')
  digits.length ≤ longestInteger && (digits.head? != some '0' || digits.all (· == '0'))

/-- The number that a text to the base ten begins with. -/
def takeDecimal? (text : List Char) : Option (ConstantToken × List Char) :=
  let (whole, rest) := takeGrouped 10 text
  let fraction := afterFraction? rest
  let rest := fraction.getD rest
  let exponent := afterExponent? rest
  let rest := exponent.getD rest
  let imaginary := rest.head?.any fun c => c.toLower == 'j'
  if imaginary then some (.number true, rest.drop 1)
  else if fraction.isSome || exponent.isSome || isInteger whole then some (.number false, rest)
  else none

/-- The number that a text begins with; nothing of a word may follow it. -/
def takeNumber? (text : List Char) : Option (ConstantToken × List Char) :=
  let found := match text with
    | '0' :: letter :: rest =>
      match baseOf? letter with
      | none => takeDecimal? text
      | some base =>
        let (digits, rest) := takeGrouped base rest
        if digits.isEmpty then none else some (.number false, rest)
    | _ => takeDecimal? text
  found.filter fun (_, rest) => !rest.head?.any isNameChar

/-! ### Quoted texts -/

/-- How a quoted text is read: whether it holds bytes, and whether backslashes stand for
    themselves. -/
structure Quoting where
  bytes : Bool
  raw : Bool
  deriving DecidableEq, Repr

/-- How many hexadecimal digits the letter of an escape wants. -/
def escapeWidth (bytes : Bool) (letter : Char) : Nat :=
  if letter == 'x' then 2
  else if bytes then 0
  else if letter == 'u' then 4
  else if letter == 'U' then 8
  else 0

/-- Whether the escape of a letter is well formed in front of a text. -/
def isEscape (bytes : Bool) (letter : Char) (rest : List Char) : Bool :=
  let width := escapeWidth bytes letter
  let digits := rest.take width
  (bytes || letter != 'N') && digits.length == width
    && (Json.hexNumber? digits).any (· ≤ 0x10FFFF)

/-- What follows a quoted text whose opening quotes, one or three, have been read. -/
def afterQuoted? (q : Quoting) (quote : Char) (long : Bool) : List Char → Option (List Char)
  | [] => none
  | '\\' :: c :: rest =>
    if (q.raw || isEscape q.bytes c rest) && (!q.bytes || c.toNat < 0x80) then
      afterQuoted? q quote long rest
    else none
  | c :: rest =>
    if c == quote then
      if !long then some rest
      else if rest.take 2 == [quote, quote] then some (rest.drop 2)
      else afterQuoted? q quote long rest
    else if (c == '\n' && !long) || (q.bytes && 0x80 ≤ c.toNat) then none
    else afterQuoted? q quote long rest

/-- The quoted text that a text begins with, its first quote aside. -/
def takeQuoted? (q : Quoting) (quote : Char) (text : List Char) :
    Option (ConstantToken × List Char) :=
  let long := text.take 2 == [quote, quote]
  (afterQuoted? q quote long (if long then text.drop 2 else text)).map fun rest =>
    (.quoted q.bytes, rest)

/-- How a text is read whose quote follows some letters. -/
def quotingOf? (letters : String) : Option Quoting :=
  [("", ⟨false, false⟩), ("u", ⟨false, false⟩), ("r", ⟨false, true⟩), ("b", ⟨true, false⟩),
    ("br", ⟨true, true⟩), ("rb", ⟨true, true⟩)].lookup letters.toLower

/-! ### Words of a text -/

/-- The word or quoted text that a text begins with. -/
def takeWord? (text : List Char) : Option (ConstantToken × List Char) :=
  let name := String.ofList (text.takeWhile isNameChar)
  match text.dropWhile isNameChar with
  | quote :: rest =>
    if quote == '"' || quote == '\'' then
      (quotingOf? name).bind fun q => takeQuoted? q quote rest
    else some (.word name, quote :: rest)
  | [] => some (.word name, [])

/-- A mark that has a meaning in a constant. -/
def isMark (c : Char) : Bool := "()\x7b\x7d,:+-".toList.contains c

/-- The first word of a text that begins with no blank. -/
def take? : List Char → Option (ConstantToken × List Char)
  | '.' :: '.' :: '.' :: rest => some (.word "...", rest)
  | c :: rest =>
    if c.isDigit || (c == '.' && rest.head?.any Char.isDigit) then takeNumber? (c :: rest)
    else if isNameChar c || c == '"' || c == '\'' then takeWord? (c :: rest)
    else if isMark c then some (.mark c, rest)
    else none
  | [] => none

/-- How many brackets are open after a word. -/
def depthAfter (depth : Nat) : ConstantToken → Nat
  | .mark c =>
    if c == '(' || c == '\x7b' then depth + 1
    else if c == ')' || c == '\x7d' then depth - 1
    else depth
  | _ => depth

/-- How many brackets may be open at once. -/
def deepestBracket : Nat := 200

/-- The words of a text in which some brackets are open. -/
def ofTextFrom : Nat → Nat → List Char → Option (List ConstantToken)
  | _, _, [] => some []
  | 0, _, _ => none
  | fuel + 1, depth, c :: rest =>
    if c == ' ' || c == '\t' || c == '\x0c' then ofTextFrom fuel depth rest
    else if c == '#' then ofTextFrom fuel depth (rest.dropWhile (· != '\n'))
    else if c == '\n' then
      let words := ofTextFrom fuel depth rest
      if depth = 0 then words.map (.lineEnd :: ·) else words
    else if c == '\\' && rest.head? == some '\n' then ofTextFrom fuel depth (rest.drop 1)
    else
      (take? (c :: rest)).bind fun (token, rest) =>
        let depth := token.depthAfter depth
        if depth ≤ deepestBracket then (ofTextFrom fuel depth rest).map (token :: ·) else none

end ConstantToken

/-- A text whose lines all end in a line feed. -/
def plainLineEnds : List Char → List Char
  | '\r' :: '\n' :: rest => '\n' :: plainLineEnds rest
  | '\r' :: rest => '\n' :: plainLineEnds rest
  | c :: rest => c :: plainLineEnds rest
  | [] => []

/-- The words of a text. -/
def constantTokens? (text : List Char) : Option (List ConstantToken) :=
  ConstantToken.ofTextFrom text.length 0 (plainLineEnds text)

end PlainScan.Console

import PlainScan.Text.Utf8
import PlainScan.Yaml.Lexer.Basic

namespace PlainScan.Yaml.Lexer

/-!
# Names, tags and directives

* `named` — an anchor or a reference to one.
* `address` — the text of a tag, with bytes that are written as two hexadecimal digits.
* `handle` — what stands between exclamation marks in front of a tag.
* `tag` — a whole tag.
* `directive` — a line about the document that follows.
-/

/-! ### Anchors -/

/-- Whether a name may end before a character. -/
def endsName (c : Option Char) : Bool :=
  atGap c || c.any fun c => "?:,]\x7d%@\x60".toList.contains c

/-- An anchor or a reference to one. -/
def named (s : Lexer) (token : String → Token) : Except Fault Lexer :=
  s.saveLastKey.bind fun s =>
    let (name, s) := s.advance.passWhile isNameChar
    if name.isEmpty || !endsName s.peek then .error .illFormed
    else .ok (s.push (token (String.ofList name)))

/-! ### Tags -/

/-- The characters that stand for themselves in the text of a tag. -/
def isAddressChar (c : Char) : Bool :=
  c.isAlphanum || "-;/?:@&=+$,_.!~*'()[]".toList.contains c

/-- The bytes that are written with percent signs at the front of a text, and how many characters
    they take; of each, both digits have to be there. -/
def escapedBytes : List Char → Except Fault (Text.Bytes × Nat)
  | '%' :: a :: b :: rest =>
    match Json.hexNumber? [a, b] with
    | none => .error .illFormed
    | some n => (escapedBytes rest).map fun (found, width) => (UInt8.ofNat n :: found, width + 3)
  | '%' :: _ => .error .illFormed
  | _ => .ok ([], 0)

/-- The text of a tag piece by piece. -/
def addressFrom : Nat → Lexer → List Char → Except Fault (List Char × Lexer)
  | 0, s, text => .ok (text, s)
  | fuel + 1, s, text =>
    let (plain, s) := s.passWhile isAddressChar
    let text := text ++ plain
    if s.peek != some '%' then .ok (text, s)
    else
      match escapedBytes s.rest with
      | .error fault => .error fault
      | .ok (found, width) =>
        match Text.decode found with
        | .error _ => .error .illFormed
        | .ok chars => addressFrom fuel (s.advanceBy width) (text ++ chars)

/-- The text of a tag, which must not be empty. -/
def address (s : Lexer) : Except Fault (String × Lexer) :=
  (addressFrom s.steps s []).bind fun (text, after) =>
    if after.index = s.index then .error .illFormed else .ok (String.ofList text, after)

/-- What stands between exclamation marks; before a blank, one mark is enough. -/
def handle (s : Lexer) : Except Fault (String × Lexer) :=
  if s.peek != some '!' then .error .illFormed
  else if s.peek 1 == some ' ' then .ok ("!", s.advance)
  else
    let (name, s) := s.advance.passWhile isNameChar
    if s.peek != some '!' then .error .illFormed
    else .ok (String.ofList ('!' :: (name ++ ['!'])), s.advance)

/-- Whether another exclamation mark follows the first one before the next blank. -/
def hasHandle (s : Lexer) : Bool :=
  ((s.rest.drop 1).takeWhile fun c => !atSpace (some c)).contains '!'

/-- The handle and the text of a tag.  An exclamation mark alone is a tag of its own. -/
def tagParts (s : Lexer) : Except Fault (Option String × String × Lexer) :=
  if s.peek 1 == some '<' then
    match (s.advanceBy 2).address with
    | .error fault => .error fault
    | .ok (text, s) =>
      if s.peek == some '>' then .ok (none, text, s.advance) else .error .illFormed
  else if atGap (s.peek 1) then .ok (none, "!", s.advance)
  else if s.hasHandle then
    s.handle.bind fun (name, s) => s.address.map fun (text, s) => (some name, text, s)
  else s.advance.address.map fun (text, s) => (some "!", text, s)

/-- A tag. -/
def tag (s : Lexer) : Except Fault Lexer := do
  let (name, text, s) ← (← s.saveLastKey).tagParts
  if !atSpace s.peek then throw .illFormed
  return s.push (.tag name text)

/-! ### Directives -/

/-- A number of a version. -/
def versionNumber (s : Lexer) : Except Fault (Nat × Lexer) :=
  let (digits, s) := s.passWhile Char.isDigit
  if digits.isEmpty then .error .illFormed
  else if integerLimit < digits.length then .error (.badValue (.endlessInteger digits.length))
  else .ok (Json.decimalNumber digits, s)

/-- What the directive on the version says. -/
def versionDirective (s : Lexer) : Except Fault (Directive × Lexer) := do
  let (greater, s) ← s.passBlanks.versionNumber
  if s.peek != some '.' then throw .illFormed
  let (_, s) ← s.advance.versionNumber
  if !atSpace s.peek then throw .illFormed
  return (.version greater, s)

/-- What a directive on tags says. -/
def handleDirective (s : Lexer) : Except Fault (Directive × Lexer) := do
  let (name, s) ← s.passBlanks.handle
  if s.peek != some ' ' then throw .illFormed
  let (start, s) ← s.passBlanks.address
  if !atSpace s.peek then throw .illFormed
  return (.handle name start, s)

/-- What a directive with a name says, the place being after the name. -/
def directiveBody (s : Lexer) (name : String) : Except Fault (Directive × Lexer) :=
  match name with
  | "YAML" => s.versionDirective
  | "TAG" => s.handleDirective
  | _ => .ok (.other, (s.passWhile fun c => !isBreak c).2)

/-- A directive: its name, what it says, and the rest of its line. -/
def directive (s : Lexer) : Except Fault Lexer := do
  let s ← s.unwindAll.dropKey
  let (name, s) := { s with keyAllowed := false }.advance.passWhile isNameChar
  if name.isEmpty || !atSpace s.peek then throw .illFormed
  let (d, s) ← s.directiveBody (String.ofList name)
  return (← s.passEmptyLine).push (.directive d)

end PlainScan.Yaml.Lexer

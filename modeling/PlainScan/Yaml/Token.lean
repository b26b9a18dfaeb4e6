namespace PlainScan.Yaml

/-!
# Tokens of a settings document

* `Token` — the signs, names and scalars that a document is cut into.
* `Directive` — what a line says about the document that follows.
* `isBreak`, `isAllowed` — the characters that end a line, and those that a document may hold.
-/

/-! ### Tokens -/

/-- What a directive says: the greater number of the version, or what a handle of tags stands
    for.  Other directives say nothing. -/
inductive Directive where
  | version (number : Nat)
  | handle (name start : String)
  | other
  deriving DecidableEq, Repr, Inhabited

/-- A token.  A tag may have a handle in front of its text. -/
inductive Token where
  | directive (d : Directive)
  | documentStart
  | documentEnd
  | blockSequenceStart
  | blockMappingStart
  | blockEnd
  | flowSequenceStart
  | flowSequenceEnd
  | flowMappingStart
  | flowMappingEnd
  | blockEntry
  | flowEntry
  | key
  | value
  | reference (name : String)
  | anchor (name : String)
  | tag (handle : Option String) (text : String)
  | scalar (text : String) (plain : Bool)
  deriving DecidableEq, Repr, Inhabited

/-- Whether a token is a directive. -/
def Token.isDirective : Token → Bool
  | .directive _ => true
  | _ => false

/-! ### Characters -/

/-- Whether a character ends a line. -/
def isBreak (c : Char) : Bool :=
  c == '\n' || c == '\r' || c == '\u0085' || c == '\u2028' || c == '\u2029'

/-- Whether a place is at the end of the text or before a character that ends a line. -/
def atBreak : Option Char → Bool
  | none => true
  | some c => isBreak c

/-- Whether a place is at the end of a text without blanks. -/
def atSpace : Option Char → Bool
  | none => true
  | some c => c == ' ' || isBreak c

/-- Whether a place is at the end of a word. -/
def atGap : Option Char → Bool
  | none => true
  | some c => c == ' ' || c == '\t' || isBreak c

/-- The characters of a name. -/
def isNameChar (c : Char) : Bool := c.isAlphanum || c == '-' || c == '_'

/-- The characters that a document may hold. -/
def isAllowed (c : Char) : Bool :=
  let n := c.toNat
  n == 0x09 || n == 0x0A || n == 0x0D || (0x20 ≤ n && n ≤ 0x7E) || n == 0x85
    || (0xA0 ≤ n && n ≤ 0xD7FF) || (0xE000 ≤ n && n ≤ 0xFFFD) || 0x10000 ≤ n

end PlainScan.Yaml

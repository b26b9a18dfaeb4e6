import PlainScan.Yaml.Fault
import PlainScan.Yaml.Token

namespace PlainScan.Yaml

/-!
# A place in a settings document

Indentation opens and closes block collections, and a colon after a text turns what came before it
into a key, so tokens are also inserted behind the place that has been reached.

* `KeyPlace` — a place where a key may start.
* `Lexer` — how far a text has been read, the tokens so far, the open collections and the places
  where a key may start.
* `Lexer.advance`, `Lexer.passBreak` — going on in the text.
* `Lexer.push`, `Lexer.insertAt`, `Lexer.unwind` — adding tokens.
* `Lexer.saveKey`, `Lexer.dropKey` — remembering and giving up the places for keys.
-/

/-! ### Places -/

/-- A place where a key may start: the number of the token, whether a key has to start there, and
    where it is. -/
structure KeyPlace where
  token : Nat
  required : Bool
  index : Nat
  line : Nat
  column : Nat
  deriving Repr, Inhabited

/-- How far a text has been read. -/
structure Lexer where
  rest : List Char
  /-- More than the characters of the text; no part of a token takes more steps. -/
  steps : Nat
  index : Nat := 0
  line : Nat := 0
  column : Nat := 0
  /-- The columns of the open block collections, innermost first. -/
  indents : List Nat := []
  /-- The tokens so far. -/
  tokens : Array Token := #[]
  /-- The places where a key may start, by the depth of the flow collection they are in. -/
  keys : List (Nat × KeyPlace) := []
  flowLevel : Nat := 0
  keyAllowed : Bool := true
  deriving Repr, Inhabited

namespace Lexer

/-- The start of a text; a mark of the byte order does not count. -/
def start (text : List Char) : Lexer :=
  { rest := match text with
      | '\uFEFF' :: rest => rest
      | text => text
    steps := text.length + 1 }

/-! ### Going on -/

/-- The character at a distance. -/
def peek (s : Lexer) (distance : Nat := 0) : Option Char := s.rest[distance]?

/-- Goes on by one character. -/
def advance (s : Lexer) : Lexer :=
  match s.rest with
  | [] => s
  | c :: rest =>
    let s := { s with rest := rest, index := s.index + 1 }
    if c == '\r' && rest.head? == some '\n' then { s with column := s.column + 1 }
    else if isBreak c then { s with line := s.line + 1, column := 0 }
    else if c == '\uFEFF' then s
    else { s with column := s.column + 1 }

/-- Goes on by a number of characters. -/
def advanceBy (s : Lexer) : Nat → Lexer
  | 0 => s
  | n + 1 => s.advance.advanceBy n

/-- Goes on while a property holds, and tells what was passed. -/
def passWhile (s : Lexer) (p : Char → Bool) : List Char × Lexer :=
  let passed := s.rest.takeWhile p
  (passed, s.advanceBy passed.length)

/-- Passes blanks. -/
def passBlanks (s : Lexer) : Lexer := (s.passWhile (· == ' ')).2

/-- Passes a comment, if the place is at its start. -/
def passComment (s : Lexer) : Lexer :=
  if s.peek == some '#' then (s.passWhile fun c => !isBreak c).2 else s

/-- Passes the end of a line, if the place is there, and tells how it counts: the two Unicode
    separators stay, all others count as line feeds. -/
def passBreak (s : Lexer) : Option (Char × Lexer) :=
  match s.rest with
  | '\r' :: '\n' :: _ => some ('\n', s.advanceBy 2)
  | c :: _ =>
    if !isBreak c then none
    else some (if c == '\u2028' || c == '\u2029' then c else '\n', s.advance)
  | [] => none

/-- Passes the rest of a line, on which only a comment may stand. -/
def passEmptyLine (s : Lexer) : Except Fault Lexer :=
  let s := s.passBlanks.passComment
  if !atBreak s.peek then .error .illFormed
  else
    match s.passBreak with
    | some (_, s) => .ok s
    | none => .ok s

/-- Passes blanks, comments and ends of lines. -/
def passGaps : Nat → Lexer → Lexer
  | 0, s => s
  | fuel + 1, s =>
    let s := s.passBlanks.passComment
    match s.passBreak with
    | some (_, s) => passGaps fuel (if s.flowLevel == 0 then { s with keyAllowed := true } else s)
    | none => s

/-- Whether the marks between documents stand here. -/
def atDocumentMark (s : Lexer) : Bool :=
  (s.rest.take 3 == ['-', '-', '-'] || s.rest.take 3 == ['.', '.', '.']) && atGap (s.peek 3)

/-! ### Adding tokens -/

/-- Adds a token. -/
def push (s : Lexer) (t : Token) : Lexer := { s with tokens := s.tokens.push t }

/-- Inserts a token before the one with the given number. -/
def insertAt (s : Lexer) (number : Nat) (t : Token) : Lexer :=
  { s with tokens := s.tokens.insertIdxIfInBounds number t }

/-- Passes a sign of a number of characters and adds its token. -/
def sign (s : Lexer) (width : Nat) (t : Token) : Lexer := (s.advanceBy width).push t

/-- Whether a column lies inside the innermost block collection. -/
def isDeeper (s : Lexer) (column : Nat) : Bool :=
  match s.indents with
  | [] => true
  | indent :: _ => indent < column

/-- The column from which the lines of a scalar in the current collection start. -/
def innerColumn (s : Lexer) : Nat :=
  match s.indents with
  | [] => 0
  | indent :: _ => indent + 1

/-- Opens a block collection at a column, if it lies deeper than the open ones. -/
def openBlock (s : Lexer) (column : Nat) (t : Token) : Lexer :=
  if s.isDeeper column then { s with indents := column :: s.indents }.push t else s

/-- Closes the block collections whose column lies to the right of `column`. -/
def closeTo (column : Nat) : List Nat → Array Token → List Nat × Array Token
  | [], tokens => ([], tokens)
  | indent :: rest, tokens =>
    if column < indent then closeTo column rest (tokens.push .blockEnd)
    else (indent :: rest, tokens)

/-- Closes the block collections that end at the current column. -/
def unwind (s : Lexer) : Lexer :=
  if s.flowLevel != 0 then s
  else
    let (indents, tokens) := closeTo s.column s.indents s.tokens
    { s with indents := indents, tokens := tokens }

/-- Closes all block collections. -/
def unwindAll (s : Lexer) : Lexer :=
  if s.flowLevel != 0 then s
  else
    { s with
      indents := []
      tokens := s.tokens ++ List.replicate s.indents.length Token.blockEnd }

/-! ### Keys -/

/-- Gives up the place for a key at the current depth; a required key must not be missing. -/
def dropKey (s : Lexer) : Except Fault Lexer :=
  match s.keys.lookup s.flowLevel with
  | some place =>
    if place.required then .error .illFormed
    else .ok { s with keys := s.keys.filter fun k => k.1 != s.flowLevel }
  | none => .ok s

/-- Whether a place for a key has been left behind: a key stays on its line and is not too
    long. -/
def isStale (s : Lexer) (place : KeyPlace) : Bool :=
  place.line != s.line || s.index - place.index > 1024

/-- Gives up the places for keys that have been left behind. -/
def dropStaleKeys (s : Lexer) : Except Fault Lexer :=
  if s.keys.any fun k => s.isStale k.2 && k.2.required then .error .illFormed
  else .ok { s with keys := s.keys.filter fun k => !s.isStale k.2 }

/-- Remembers that a key may start here. -/
def saveKey (s : Lexer) : Except Fault Lexer :=
  if !s.keyAllowed then .ok s
  else
    let required := s.flowLevel == 0 && s.indents.head? == some s.column
    s.dropKey.map fun s =>
      let place : KeyPlace := ⟨s.tokens.size, required, s.index, s.line, s.column⟩
      { s with keys := (s.flowLevel, place) :: s.keys }

/-- Remembers that a key may start here, where what starts cannot be followed by another key on the
    same line. -/
def saveLastKey (s : Lexer) : Except Fault Lexer :=
  s.saveKey.map fun s => { s with keyAllowed := false }

end Lexer

end PlainScan.Yaml

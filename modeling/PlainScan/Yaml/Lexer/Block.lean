import PlainScan.Yaml.Lexer.Basic

namespace PlainScan.Yaml.Lexer

/-!
# Block scalars

A block scalar is made of the lines that stand deeper than the collection around it.  Its header
says how deep they are and what becomes of the line breaks at its end.

* `BlockHeader` — what the header says.
* `blockLines` — the lines, kept or folded.
* `block` — a whole scalar.
-/

/-! ### Headers -/

/-- How a block scalar treats the line breaks at its end, and how deep it is said to be. -/
structure BlockHeader where
  chomping : Option Bool
  increment : Option Nat

/-- A sign for the line breaks at the end. -/
def takeChomping (s : Lexer) : Option Bool × Lexer :=
  match s.peek with
  | some '+' => (some true, s.advance)
  | some '-' => (some false, s.advance)
  | _ => (none, s)

/-- A digit for the depth; zero is none. -/
def takeIncrement (s : Lexer) : Except Fault (Option Nat × Lexer) :=
  match s.peek with
  | some c =>
    if !c.isDigit then .ok (none, s)
    else if c == '0' then .error .illFormed
    else .ok (some (c.toNat - '0'.toNat), s.advance)
  | none => .ok (none, s)

/-- The signs after the mark of a block scalar, in either order, and the rest of the line. -/
def blockHeader (s : Lexer) : Except Fault (BlockHeader × Lexer) := do
  let (before, s) := s.takeChomping
  let (increment, s) ← s.takeIncrement
  let (after, s) := if before.isNone && increment.isSome then s.takeChomping else (before, s)
  if !atSpace s.peek then throw .illFormed
  return (⟨after, increment⟩, ← s.passEmptyLine)

/-! ### Lines -/

/-- The empty lines before a block scalar, and the greatest column met. -/
def leadingBreaks : Nat → Lexer → List Char → Nat → List Char × Nat × Lexer
  | 0, s, breaks, deepest => (breaks.reverse, deepest, s)
  | fuel + 1, s, breaks, deepest =>
    let s := s.passBlanks
    let deepest := max deepest s.column
    match s.passBreak with
    | some (c, s) => leadingBreaks fuel s (c :: breaks) deepest
    | none => (breaks.reverse, deepest, s)

/-- Passes blanks up to a column. -/
def passIndent (s : Lexer) (indent : Nat) : Lexer :=
  s.advanceBy (min (indent - s.column) (s.rest.takeWhile (· == ' ')).length)

/-- The empty lines inside a block scalar of a depth. -/
def innerBreaks (indent : Nat) : Nat → Lexer → List Char → List Char × Lexer
  | 0, s, breaks => (breaks.reverse, s)
  | fuel + 1, s, breaks =>
    let s := s.passIndent indent
    match s.passBreak with
    | some (c, s) => innerBreaks indent fuel s (c :: breaks)
    | none => (breaks.reverse, s)

/-- Whether a line opens with a blank, which keeps it from being folded. -/
def opensBlank (s : Lexer) : Bool := s.peek == some ' ' || s.peek == some '\t'

/-- What the lines of a block scalar amount to: the text, the end of its last line, and the empty
    lines after it. -/
structure BlockText where
  text : List Char
  ending : List Char
  breaks : List Char

/-- The lines of a block scalar; the text so far is reversed. -/
def blockLines (folded : Bool) (indent : Nat) :
    Nat → Lexer → List Char → List Char → BlockText × Lexer
  | 0, s, text, breaks => (⟨text.reverse, [], breaks⟩, s)
  | fuel + 1, s, text, breaks =>
    let blankStart := s.opensBlank
    let (line, s) := s.passWhile fun c => !isBreak c
    let text := line.reverse ++ (breaks.reverse ++ text)
    let (ending, s) := match s.passBreak with
      | some (c, s) => ([c], s)
      | none => ([], s)
    let (breaks, s) := innerBreaks indent s.steps s []
    if s.column == indent && !s.rest.isEmpty then
      let joint :=
        if folded && ending == ['\n'] && !blankStart && !s.opensBlank then
          if breaks.isEmpty then [' '] else []
        else ending
      blockLines folded indent fuel s (joint ++ text) breaks
    else (⟨text.reverse, ending, breaks⟩, s)

/-- The text of a block scalar with the line breaks that are kept at its end. -/
def BlockText.chomped (t : BlockText) (chomping : Option Bool) : List Char :=
  t.text ++ (if chomping == some false then [] else t.ending)
    ++ (if chomping == some true then t.breaks else [])

/-! ### Whole scalars -/

/-- A block scalar. -/
def block (s : Lexer) (folded : Bool) : Except Fault Lexer := do
  let s ← s.dropKey
  let (header, s) ← { s with keyAllowed := true }.advance.blockHeader
  let least := max 1 s.innerColumn
  let (breaks, indent, s) := match header.increment with
    | none =>
      let (breaks, deepest, s) := leadingBreaks s.steps s [] 0
      (breaks, max least deepest, s)
    | some n =>
      let indent := least + n - 1
      let (breaks, s) := innerBreaks indent s.steps s []
      (breaks, indent, s)
  let (lines, s) :=
    if s.column == indent && !s.rest.isEmpty then blockLines folded indent s.steps s [] breaks
    else (⟨[], [], breaks⟩, s)
  return s.push (.scalar (String.ofList (lines.chomped header.chomping)) false)

end PlainScan.Yaml.Lexer

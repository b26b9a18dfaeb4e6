import PlainScan.Yaml.Lexer.Basic

namespace PlainScan.Yaml.Lexer

/-!
# Scalars without quotes

A plain scalar goes on up to a sign that ends it, through line breaks, which are folded.

* `plainChunk` — the part up to the next blank or sign.
* `foldBreaks` — what line breaks count as.
* `plain` — a whole scalar.
-/

/-- Whether a plain scalar ends before a character, given the one after it. -/
def endsPlain (inFlow : Bool) (c : Char) (next : Option Char) : Bool :=
  c == ' ' || c == '\t' || isBreak c
    || (c == ':' && (atGap next || (inFlow && next.any fun d => ",[]\x7b\x7d".toList.contains d)))
    || (inFlow && ",?[]\x7b\x7d".toList.contains c)

/-- The part of a plain scalar up to the next blank or sign. -/
def plainChunk (inFlow : Bool) : List Char → List Char
  | [] => []
  | c :: rest => if endsPlain inFlow c rest.head? then [] else c :: plainChunk inFlow rest

/-! ### Line breaks -/

/-- The line breaks inside a plain scalar after the first one; nothing comes out where a mark
    between documents stands. -/
def plainBreaks : Nat → Lexer → List Char → Option (List Char) × Lexer
  | 0, s, breaks => (some breaks.reverse, s)
  | fuel + 1, s, breaks =>
    let s := s.passBlanks
    match s.passBreak with
    | none => (some breaks.reverse, s)
    | some (c, s) =>
      if s.atDocumentMark then (none, s) else plainBreaks fuel s (c :: breaks)

/-- How line breaks are folded: one alone becomes a blank, of several the first is dropped. -/
def foldBreaks (first : Char) (others : List Char) : List Char :=
  if first != '\n' then first :: others else if others.isEmpty then [' '] else others

/-- The blanks inside a plain scalar, line breaks folded. -/
def plainSpaces (s : Lexer) : List Char × Lexer :=
  let (blanks, s) := s.passWhile (· == ' ')
  match s.passBreak with
  | none => (blanks, s)
  | some (first, s) =>
    let s := { s with keyAllowed := true }
    if s.atDocumentMark then ([], s)
    else
      match plainBreaks s.steps s [] with
      | (none, s) => ([], s)
      | (some others, s) => (foldBreaks first others, s)

/-! ### Whole scalars -/

/-- A plain scalar chunk by chunk; `spaces` stand before the next chunk, and the text so far is
    reversed. -/
def plainFrom : Nat → Lexer → List Char → List Char → List Char × Lexer
  | 0, s, text, _ => (text, s)
  | fuel + 1, s, text, spaces =>
    let chunk := if s.peek == some '#' then [] else plainChunk (s.flowLevel != 0) s.rest
    if chunk.isEmpty then (text, s)
    else
      let text := chunk.reverse ++ (spaces.reverse ++ text)
      let s := { s.advanceBy chunk.length with keyAllowed := false }
      let column := s.innerColumn
      let (spaces, s) := s.plainSpaces
      if spaces.isEmpty || s.peek == some '#' || (s.flowLevel == 0 && s.column < column) then
        (text, s)
      else plainFrom fuel s text spaces

/-- A plain scalar. -/
def plain (s : Lexer) : Except Fault Lexer :=
  s.saveLastKey.map fun s =>
    let (text, s) := plainFrom s.steps s [] []
    s.push (.scalar (String.ofList text.reverse) true)

/-- Whether a plain scalar can start with a character, given the one after it. -/
def startsPlain (inFlow : Bool) (c : Char) (next : Option Char) : Bool :=
  !"-?:,[]\x7b\x7d#&*!|>'\"%@\x60 \t".toList.contains c && !isBreak c
    || (!atGap next && (c == '-' || (!inFlow && (c == '?' || c == ':'))))

end PlainScan.Yaml.Lexer

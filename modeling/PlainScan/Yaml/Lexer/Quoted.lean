import PlainScan.Yaml.Lexer.Plain

namespace PlainScan.Yaml.Lexer

/-!
# Scalars in quotes

Line breaks inside quotes are folded.  In single quotes a quote is written twice; in double quotes
a backslash starts an escape.  The two halves of a pair of surrogates make one character.

* `quotedEscape` — the codes that an escape stands for.
* `quoted` — a whole scalar.
-/

/-! ### Escapes -/

/-- The one-character escapes of a scalar in double quotes. -/
def quotedEscapes : List (Char × Nat) :=
  [('0', 0x00), ('a', 0x07), ('b', 0x08), ('t', 0x09), ('\t', 0x09), ('n', 0x0A), ('v', 0x0B),
    ('f', 0x0C), ('r', 0x0D), ('e', 0x1B), (' ', 0x20), ('"', 0x22), ('\\', 0x5C), ('/', 0x2F),
    ('N', 0x85), ('_', 0xA0), ('L', 0x2028), ('P', 0x2029)]

/-- How many hexadecimal digits follow the letter of a numeric escape. -/
def escapeWidths : List (Char × Nat) := [('x', 2), ('u', 4), ('U', 8)]

/-- The greatest number that is looked up as a character at all. -/
def codeLimit : Nat := 0x7FFFFFFF

/-- The greatest code of a character. -/
def lastCode : Nat := 0x10FFFF

/-- The code that a numeric escape of a width stands for. -/
def numericEscape (width : Nat) (text : List Char) : Except Fault Nat :=
  match Json.hexNumber? (text.take width) with
  | some n =>
    if (text.take width).length != width then .error .illFormed
    else if codeLimit < n then .error .givenUp
    else if lastCode < n then .error (.badValue .badCharacter)
    else .ok n
  | none => .error .illFormed

/-! ### Line breaks -/

/-- Whether a character is a blank inside quotes. -/
def isQuotedBlank (c : Char) : Bool := c == ' ' || c == '\t'

/-- The line breaks inside a quoted scalar; no mark between documents may stand there. -/
def quotedBreaks : Nat → Lexer → List Char → Except Fault (List Char × Lexer)
  | 0, s, breaks => .ok (breaks.reverse, s)
  | fuel + 1, s, breaks =>
    if s.atDocumentMark then .error .illFormed
    else
      let s := (s.passWhile isQuotedBlank).2
      match s.passBreak with
      | some (c, s) => quotedBreaks fuel s (c :: breaks)
      | none => .ok (breaks.reverse, s)

/-- Blanks inside a quoted scalar, line breaks folded. -/
def quotedSpaces (s : Lexer) : Except Fault (List Char × Lexer) :=
  let (blanks, s) := s.passWhile isQuotedBlank
  match s.peek, s.passBreak with
  | none, _ => .error .illFormed
  | some _, none => .ok (blanks, s)
  | some _, some (first, s) =>
    (quotedBreaks s.steps s []).map fun (others, s) => (foldBreaks first others, s)

/-- The codes of characters. -/
def codesOf (text : List Char) : List Nat := text.map Char.toNat

/-- What a backslash in double quotes stands for, the place being after the backslash. -/
def quotedEscape (s : Lexer) : Except Fault (List Nat × Lexer) :=
  match s.peek with
  | none => .error .illFormed
  | some c =>
    match quotedEscapes.lookup c, escapeWidths.lookup c with
    | some n, _ => .ok ([n], s.advance)
    | none, some width =>
      (numericEscape width s.advance.rest).map fun n => ([n], s.advance.advanceBy width)
    | none, none =>
      match s.passBreak with
      | some (_, s) => (quotedBreaks s.steps s []).map fun (breaks, s) => (codesOf breaks, s)
      | none => .error .illFormed

/-! ### Whole scalars -/

/-- A quoted scalar piece by piece, up to the mark that closes it; the codes so far are
    reversed. -/
def quotedFrom (double : Bool) : Nat → Lexer → List Nat → Except Fault (List Nat × Lexer)
  | 0, _, _ => .error .illFormed
  | fuel + 1, s, codes =>
    match s.rest with
    | [] => .error .illFormed
    | c :: rest =>
      if isQuotedBlank c || isBreak c then
        match s.quotedSpaces with
        | .ok (blanks, s) => quotedFrom double fuel s ((codesOf blanks).reverse ++ codes)
        | .error fault => .error fault
      else if double && c == '"' then .ok (codes.reverse, s.advance)
      else if double && c == '\\' then
        match s.advance.quotedEscape with
        | .ok (more, s) => quotedFrom double fuel s (more.reverse ++ codes)
        | .error fault => .error fault
      else if !double && c == '\'' then
        if rest.head? == some '\'' then
          quotedFrom double fuel (s.advanceBy 2) (c.toNat :: codes)
        else .ok (codes.reverse, s.advance)
      else quotedFrom double fuel s.advance (c.toNat :: codes)

/-- A quoted scalar. -/
def quoted (s : Lexer) (double : Bool) : Except Fault Lexer :=
  s.saveLastKey.bind fun s =>
    (quotedFrom double s.steps s.advance []).map fun (codes, s) =>
      s.push (.scalar (String.ofList (Json.joinPairs codes)) false)

end PlainScan.Yaml.Lexer

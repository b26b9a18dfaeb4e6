import PlainScan.Yaml.Lexer.Block
import PlainScan.Yaml.Lexer.Name
import PlainScan.Yaml.Lexer.Quoted

namespace PlainScan.Yaml

/-!
# All tokens of a settings document

* `Lexer.token` — the token at a place.
* `TokenStream` — the tokens up to the end of a text or up to a fault.  Tokens that wait for what
  follows them, because they may turn out to belong to a key, do not come before the fault.
* `TokenStream.ofText` — the tokens of a text.
-/

namespace Lexer

/-! ### Signs -/

/-- The start of a flow collection. -/
def openFlow (s : Lexer) (t : Token) : Except Fault Lexer :=
  s.saveKey.map fun s =>
    { s with flowLevel := s.flowLevel + 1, keyAllowed := true }.sign 1 t

/-- The end of a flow collection. -/
def closeFlow (s : Lexer) (t : Token) : Except Fault Lexer :=
  s.dropKey.bind fun s =>
    if s.flowLevel == 0 then .error .illFormed
    else .ok ({ s with flowLevel := s.flowLevel - 1, keyAllowed := false }.sign 1 t)

/-- The sign between the parts of a flow collection. -/
def flowEntry (s : Lexer) : Except Fault Lexer :=
  s.dropKey.map fun s => { s with keyAllowed := true }.sign 1 .flowEntry

/-- A mark between documents. -/
def documentMark (s : Lexer) (t : Token) : Except Fault Lexer :=
  s.unwindAll.dropKey.map fun s => { s with keyAllowed := false }.sign 3 t

/-- An entry of a block sequence. -/
def blockEntry (s : Lexer) : Except Fault Lexer :=
  if s.flowLevel == 0 && !s.keyAllowed then .error .illFormed
  else
    let s := if s.flowLevel == 0 then s.openBlock s.column .blockSequenceStart else s
    let s : Lexer := { s with keyAllowed := true }
    s.dropKey.map fun s => s.sign 1 .blockEntry

/-- The mark before a key or a value that no text stands before. -/
def looseMark (s : Lexer) (t : Token) : Except Fault Lexer :=
  if s.flowLevel == 0 && !s.keyAllowed then .error .illFormed
  else
    let s := if s.flowLevel == 0 then s.openBlock s.column .blockMappingStart else s
    let s : Lexer := { s with keyAllowed := s.flowLevel == 0 }
    s.dropKey.map fun s => s.sign 1 t

/-- The mark before a value; it may turn what came before it into a key. -/
def valueMark (s : Lexer) : Except Fault Lexer :=
  match s.keys.lookup s.flowLevel with
  | some place =>
    let s := { s with keys := s.keys.filter fun k => k.1 != s.flowLevel }
    let s := s.insertAt place.token .key
    let s :=
      if s.flowLevel == 0 && s.isDeeper place.column then
        { s with indents := place.column :: s.indents }.insertAt place.token .blockMappingStart
      else s
    .ok ({ s with keyAllowed := false }.sign 1 .value)
  | none => s.looseMark .value

/-! ### All tokens -/

/-- The token that starts with a character, the one after it being known. -/
def token (s : Lexer) (c : Char) (next : Option Char) : Except Fault Lexer :=
  let inFlow := s.flowLevel != 0
  if c == '%' && s.column == 0 then s.directive
  else if s.column == 0 && s.atDocumentMark then
    s.documentMark (if c == '-' then .documentStart else .documentEnd)
  else if c == '[' then s.openFlow .flowSequenceStart
  else if c == '\x7b' then s.openFlow .flowMappingStart
  else if c == ']' then s.closeFlow .flowSequenceEnd
  else if c == '\x7d' then s.closeFlow .flowMappingEnd
  else if c == ',' then s.flowEntry
  else if c == '-' && atGap next then s.blockEntry
  else if c == '?' && (inFlow || atGap next) then s.looseMark .key
  else if c == ':' && (inFlow || atGap next) then s.valueMark
  else if c == '*' then s.named .reference
  else if c == '&' then s.named .anchor
  else if c == '!' then s.tag
  else if c == '|' && !inFlow then s.block false
  else if c == '>' && !inFlow then s.block true
  else if c == '\'' then s.quoted false
  else if c == '"' then s.quoted true
  else if startsPlain inFlow c next then s.plain
  else .error .illFormed

/-- Goes on by one token, after the blanks before it; at the end of the text the open block
    collections are closed, and nothing comes out. -/
def next (s : Lexer) : Except Fault (Lexer × Bool) := do
  let s := (← (passGaps s.steps s).dropStaleKeys).unwind
  match s.rest with
  | [] => return (← s.unwindAll.dropKey, false)
  | c :: rest => return (← s.token c rest.head?, true)

end Lexer

/-! ### Streams -/

/-- The tokens of a text, and the fault that they end with, if they do. -/
structure TokenStream where
  tokens : List Token
  fault : Option Fault := none
  deriving Repr, Inhabited

namespace Lexer

/-- The tokens that are certain before a fault: all up to the first that may still belong to a
    key. -/
def certain (s : Lexer) : List Token :=
  s.tokens.toList.take (s.keys.foldl (fun least k => min least k.2.token) s.tokens.size)

/-- All tokens from a place on. -/
def run : Nat → Lexer → TokenStream
  | 0, s => ⟨s.certain, some .givenUp⟩
  | fuel + 1, s =>
    match s.dropStaleKeys with
    | .error fault => ⟨s.certain, some fault⟩
    | .ok s =>
      match s.next with
      | .error fault => ⟨s.certain, some fault⟩
      | .ok (s, true) => run fuel s
      | .ok (s, false) => ⟨s.tokens.toList, none⟩

end Lexer

/-- The tokens of a text. -/
def TokenStream.ofText (text : List Char) : TokenStream :=
  if !text.all isAllowed then ⟨[], some .illFormed⟩
  else Lexer.run (text.length + 1) (Lexer.start text)

end PlainScan.Yaml

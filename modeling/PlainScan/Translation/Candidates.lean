import PlainScan.Json.Reader

namespace PlainScan

/-!
# Candidates in a reply

A language model is asked for an array of objects, but may wrap it, surround it by prose or break
off.  Three readings of its reply are tried in turn.

* `wholeCandidates` — the whole reply is an array, an object that wraps one, or one object.
* `sliceCandidates` — an array stands between the first opening and the last closing bracket.
* `braceChunks`, `objectCandidates` — every balanced pair of braces is read by itself.
* `candidatesOf` — the first reading that yields anything.

A text that is malformed does not stop a reading.  One that goes beyond a limit of the reader of
JSON texts does, and with it all readings.
-/

/-! ### The whole reply -/

/-- The keys under which a reply may wrap its array. -/
def envelopeKeys : List String := ["findings", "translations", "results"]

/-- The array that an object wraps, or the object itself. -/
def unwrap (value : Json) : List Json :=
  match envelopeKeys.findSome? fun key => (value.field? key).bind Json.arr? with
  | some items => items
  | none => [value]

/-- The items of an array, or what an object wraps; other values have none. -/
def itemsOf? : Json → Option (List Json)
  | .arr items => some items
  | .obj fields => some (unwrap (.obj fields))
  | _ => none

/-- The candidates of a reply that is JSON throughout. -/
def wholeCandidates (text : List Char) : Except Json.ReadLimit (Option (List Json)) :=
  (Json.attempt text).map fun value => value.bind itemsOf?

/-! ### The outermost brackets -/

/-- The text from the first opening bracket on. -/
def fromFirstBracket (text : List Char) : List Char := text.dropWhile (· != '[')

/-- The text up to the last closing bracket. -/
def upToLastBracket (text : List Char) : List Char :=
  (text.reverse.dropWhile (· != ']')).reverse

/-- The text between the outermost brackets, these included. -/
def outermost (text : List Char) : List Char := upToLastBracket (fromFirstBracket text)

/-- The candidates of the array between the outermost brackets. -/
def sliceCandidates (text : List Char) : Except Json.ReadLimit (Option (List Json)) :=
  (Json.attempt (outermost text)).map fun value => value.bind Json.arr?

/-! ### Balanced braces -/

/-- Where a search for balanced braces stands: the depth, the text since the outermost brace,
    nearest first, and whether a string is open or a backslash precedes. -/
structure BraceScan where
  depth : Nat := 0
  chunk : List Char := []
  inString : Bool := false
  escaped : Bool := false
  deriving Repr, DecidableEq, Inhabited

namespace BraceScan

/-- One character inside a string. -/
def stepString (s : BraceScan) (c : Char) : BraceScan :=
  let chunk := c :: s.chunk
  if s.escaped then { s with chunk := chunk, escaped := false }
  else if c == '\\' then { s with chunk := chunk, escaped := true }
  else if c == '"' then { s with chunk := chunk, inString := false }
  else { s with chunk := chunk }

/-- One character; a chunk comes out where the outermost brace is closed. -/
def step (s : BraceScan) (c : Char) : BraceScan × Option (List Char) :=
  if s.inString then (s.stepString c, none)
  else if s.depth = 0 then
    if c == '\x7b' then ({ s with depth := 1, chunk := [c] }, none) else (s, none)
  else
    let chunk := c :: s.chunk
    if c == '"' then ({ s with chunk := chunk, inString := true }, none)
    else if c == '\x7b' then ({ s with chunk := chunk, depth := s.depth + 1 }, none)
    else if c == '\x7d' then
      if s.depth = 1 then ({}, some chunk.reverse)
      else ({ s with chunk := chunk, depth := s.depth - 1 }, none)
    else ({ s with chunk := chunk }, none)

/-- The chunks that come out of a text from a state on. -/
def run (s : BraceScan) : List Char → List (List Char)
  | [] => []
  | c :: rest =>
    let (next, chunk) := s.step c
    match chunk with
    | some found => found :: run next rest
    | none => run next rest

end BraceScan

/-- The outermost balanced pairs of braces in a text; braces inside strings do not count. -/
def braceChunks (text : List Char) : List (List Char) := BraceScan.run {} text

/-- The values of the chunks that can be read, each by itself, up to one that goes beyond a
    limit. -/
def chunkValues : List (List Char) → Except Json.ReadLimit (List Json)
  | [] => .ok []
  | chunk :: rest =>
    match Json.attempt chunk with
    | .error limit => .error limit
    | .ok value => (chunkValues rest).map fun more => value.toList ++ more

/-- The candidates of the balanced pairs of braces, if there are any. -/
def objectCandidates (text : List Char) : Except Json.ReadLimit (Option (List Json)) :=
  (chunkValues (braceChunks text)).map fun found => if found.isEmpty then none else some found

/-! ### All readings -/

/-- The candidates of a reply; there may be none. -/
def candidatesOf (text : List Char) : Except Json.ReadLimit (List Json) :=
  match wholeCandidates text with
  | .error limit => .error limit
  | .ok (some found) => .ok found
  | .ok none =>
    match sliceCandidates text with
    | .error limit => .error limit
    | .ok (some found) => .ok found
    | .ok none => (objectCandidates text).map fun found => found.getD []

end PlainScan

import PlainScan.Yaml.Document
import PlainScan.Yaml.Form
import PlainScan.Yaml.Lexer.Run

namespace PlainScan.Yaml

/-!
# Documents from tokens

* `Composer` — the tokens that are left, the nodes so far, what names and handles stand for, and how
  many collections are open.
* `node` and the functions beside it — one node at the front of the tokens.
* `Document.ofTokens` — the only document of a stream.
-/

/-- The tokens that are left, the nodes so far, what names and handles stand for, and how many
    collections are open. -/
structure Composer where
  stream : TokenStream
  nodes : Array Node := #[]
  anchors : List (String × NodeId) := []
  handles : List (String × String) := []
  depth : Nat := 0
  deriving Inhabited

/-- Steps that take tokens and add nodes, or end in a fault. -/
abbrev Composing := StateT Composer (Except Fault)

namespace Composing

/-! ### Tokens -/

/-- The next token; the fault that the tokens end with counts once it is reached. -/
def next? : Composing (Option Token) := do
  let c ← get
  match c.stream.tokens, c.stream.fault with
  | t :: _, _ => return some t
  | [], some fault => throw fault
  | [], none => return none

/-- Goes on by a token. -/
def skip : Composing Unit :=
  modify fun c => { c with stream := { c.stream with tokens := c.stream.tokens.drop 1 } }

/-- Goes on while the tokens have a property. -/
def skipWhile (p : Token → Bool) : Composing Unit :=
  modify fun c => { c with stream := { c.stream with tokens := c.stream.tokens.dropWhile p } }

/-- Whether the next token is one of a few. -/
def nextIs (tokens : List Token) : Composing Bool := do
  match ← next? with
  | some t => return tokens.contains t
  | none => return false

/-! ### Nodes -/

/-- Adds a node. -/
def add (node : Node) : Composing NodeId :=
  modifyGet fun c => (c.nodes.size, { c with nodes := c.nodes.push node })

/-- Adds what stands where nothing is written. -/
def addEmpty : Composing NodeId := add .empty

/-- Gives a node a name; a name is given once. -/
def remember (name : Option String) (id : NodeId) : Composing Unit := do
  if let some name := name then
    if ((← get).anchors.lookup name).isSome then throw .illFormed
    modify fun c => { c with anchors := (name, id) :: c.anchors }

/-- The node of a name. -/
def remembered (name : String) : Composing NodeId := do
  match (← get).anchors.lookup name with
  | some id => return id
  | none => throw .illFormed

/-- How many collections may lie inside one another. -/
def depthLimit : Nat := 485

/-- A collection with a name, whose parts may refer to it. -/
def enclose {α : Type} (name : Option String) (shape : α → Node) (parts : Composing α) :
    Composing NodeId := do
  if depthLimit ≤ (← get).depth then throw .givenUp
  let id ← add .empty
  remember name id
  modify fun c => { c with depth := c.depth + 1 }
  let found ← parts
  modify fun c =>
    { c with depth := c.depth - 1, nodes := c.nodes.setIfInBounds id (shape found) }
  return id

/-! ### Properties -/

/-- The name and the tag of a node; a tag that leaves the kind open is an exclamation mark. -/
structure Properties where
  name : Option String := none
  tag : Option String := none

/-- Whether a node has a name or a tag. -/
def Properties.any (p : Properties) : Bool := p.name.isSome || p.tag.isSome

/-- The tag of a collection. -/
def Properties.tagOr (p : Properties) (kind : Tag) : Tag :=
  match p.tag with
  | none => kind
  | some "!" => kind
  | some text => .ofText text

/-- The tag of a scalar. -/
def Properties.scalarTag (p : Properties) (text : String) (plain : Bool) : Tag :=
  match p.tag with
  | none => if plain then .ofPlain text else .str
  | some "!" => .ofPlain text
  | some tag => .ofText tag

/-- The written tag behind a handle. -/
def tagText (handle : Option String) (text : String) : Composing String := do
  match handle with
  | none => return text
  | some name =>
    match (← get).handles.lookup name with
    | some start => return start ++ text
    | none => throw .illFormed

/-- A name, if one is next. -/
def takeName : Composing (Option String) := do
  match ← next? with
  | some (.anchor name) =>
    skip
    return some name
  | _ => return none

/-- A tag, if one is next. -/
def takeTag : Composing (Option (Option String × String)) := do
  match ← next? with
  | some (.tag handle text) =>
    skip
    return some (handle, text)
  | _ => return none

/-- The name and the tag before a node, in either order. -/
def properties : Composing Properties := do
  let before ← takeName
  let tag ← takeTag
  let name ← if before.isNone && tag.isSome then takeName else pure before
  match tag with
  | none => return { name := name }
  | some (handle, text) => return { name := name, tag := some (← tagText handle text) }

/-- A scalar with a name. -/
def addScalar (p : Properties) (text : String) (plain : Bool) : Composing NodeId := do
  let id ← add (.scalar (p.scalarTag text plain) text)
  remember p.name id
  return id

/-! ### Grammar -/

mutual

/-- One node.  In a block, block collections may follow; where
    `indentless` holds, also entries of a sequence that has no start of its own. -/
def node (block indentless : Bool) : Nat → Composing NodeId
  | 0 => throw .givenUp
  | fuel + 1 => do
    match ← next? with
    | some (.reference name) =>
      skip
      remembered name
    | _ =>
      let p ← properties
      content block indentless p fuel

/-- What stands after the name and the tag of a node. -/
def content (block indentless : Bool) (p : Properties) : Nat → Composing NodeId
  | 0 => throw .givenUp
  | fuel + 1 => do
    match ← next?, block, indentless with
    | some .blockEntry, _, true =>
      enclose p.name (.seq (p.tagOr .seq)) (entries false fuel)
    | some (.scalar text plain), _, _ =>
      skip
      addScalar p text plain
    | some .flowSequenceStart, _, _ =>
      skip
      enclose p.name (.seq (p.tagOr .seq)) (flowItems true fuel)
    | some .flowMappingStart, _, _ =>
      skip
      enclose p.name (.map (p.tagOr .map)) (flowPairs true fuel)
    | some .blockSequenceStart, true, _ =>
      skip
      enclose p.name (.seq (p.tagOr .seq)) (entries true fuel)
    | some .blockMappingStart, true, _ =>
      skip
      enclose p.name (.map (p.tagOr .map)) (pairs fuel)
    | _, _, _ => if p.any then addScalar p "" true else throw .illFormed

/-- The entries of a block sequence; one that was opened is also closed. -/
def entries (opened : Bool) : Nat → Composing (List NodeId)
  | 0 => throw .givenUp
  | fuel + 1 => do
    match ← next? with
    | some .blockEntry =>
      skip
      let isEmpty ← nextIs
        (if opened then [.blockEntry, .blockEnd] else [.blockEntry, .key, .value, .blockEnd])
      let item ← if isEmpty then addEmpty else node true false fuel
      return item :: (← entries opened fuel)
    | some .blockEnd =>
      if opened then skip
      return []
    | _ => if opened then throw .illFormed else return []

/-- A key or a value of a block mapping, which may be missing. -/
def pairPart : Nat → Composing NodeId
  | 0 => throw .givenUp
  | fuel + 1 => do
    if ← nextIs [.key, .value, .blockEnd] then addEmpty else node true true fuel

/-- The pairs of a block mapping, through its end. -/
def pairs : Nat → Composing (List Entry)
  | 0 => throw .givenUp
  | fuel + 1 => do
    match ← next? with
    | some .key =>
      skip
      let key ← pairPart fuel
      let hasValue ← nextIs [.value]
      if hasValue then skip
      let value ← if hasValue then pairPart fuel else addEmpty
      return (key, value) :: (← pairs fuel)
    | some .blockEnd =>
      skip
      return []
    | _ => throw .illFormed

/-- A node of a flow collection, or nothing before one of the closing tokens. -/
def flowPart (closing : List Token) : Nat → Composing NodeId
  | 0 => throw .givenUp
  | fuel + 1 => do
    if ← nextIs closing then addEmpty else node false false fuel

/-- A key whose mark has been passed, and its value, which may be missing. -/
def flowPair (closing : Token) : Nat → Composing Entry
  | 0 => throw .givenUp
  | fuel + 1 => do
    let key ← flowPart [.value, .flowEntry, closing] fuel
    let hasValue ← nextIs [.value]
    if hasValue then skip
    let value ← if hasValue then flowPart [.flowEntry, closing] fuel else addEmpty
    return (key, value)

/-- The items of a flow sequence, through its end; a pair counts as a mapping of its own. -/
def flowItems (first : Bool) : Nat → Composing (List NodeId)
  | 0 => throw .givenUp
  | fuel + 1 => do
    let closed ← nextIs [.flowSequenceEnd]
    if !closed && !first then
      if !(← nextIs [.flowEntry]) then throw .illFormed
      skip
    match ← next? with
    | some .flowSequenceEnd =>
      skip
      return []
    | some .key =>
      skip
      let item ← enclose none (fun pair => .map .map [pair])
        (flowPair .flowSequenceEnd fuel)
      return item :: (← flowItems false fuel)
    | _ =>
      let item ← node false false fuel
      return item :: (← flowItems false fuel)

/-- The pairs of a flow mapping, through its end; a key may stand alone. -/
def flowPairs (first : Bool) : Nat → Composing (List Entry)
  | 0 => throw .givenUp
  | fuel + 1 => do
    let closed ← nextIs [.flowMappingEnd]
    if !closed && !first then
      if !(← nextIs [.flowEntry]) then throw .illFormed
      skip
    match ← next? with
    | some .flowMappingEnd =>
      skip
      return []
    | some .key =>
      skip
      let pair ← flowPair .flowMappingEnd fuel
      return pair :: (← flowPairs false fuel)
    | _ =>
      let key ← node false false fuel
      let value ← addEmpty
      return (key, value) :: (← flowPairs false fuel)

end

/-! ### Documents -/

/-- What the handles of tags stand for unless a directive says otherwise. -/
def standardHandles : List (String × String) := [("!", "!"), ("!!", Tag.commonStart)]

/-- Directives in front of a document; the version and each handle are told at most once, and the
    version has to start with one. -/
def directives (versioned : Bool) : List Token → Composing Unit
  | .directive (.version number) :: rest => do
    if versioned || number != 1 then throw .illFormed
    skip
    directives true rest
  | .directive (.handle name start) :: rest => do
    if ((← get).handles.lookup name).isSome then throw .illFormed
    modify fun c => { c with handles := c.handles ++ [(name, start)] }
    skip
    directives versioned rest
  | .directive .other :: rest => do
    skip
    directives versioned rest
  | _ => return

/-- The node of a document that has a start, or nothing before what ends the document. -/
def explicitRoot (fuel : Nat) : Composing NodeId := do
  directives false (← get).stream.tokens
  if !(← nextIs [.documentStart]) then throw .illFormed
  skip
  modify fun c => { c with handles := c.handles ++ standardHandles }
  match ← next? with
  | none => addEmpty
  | some t =>
    if t.isDirective || t == .documentStart || t == .documentEnd then addEmpty
    else node true false fuel

/-- The node of the first document. -/
def root (fuel : Nat) : Composing NodeId := do
  match ← next? with
  | none => addEmpty
  | some t =>
    if t.isDirective || t == .documentStart then explicitRoot fuel
    else
      modify fun c => { c with handles := standardHandles }
      node true false fuel

/-- After the first document, only ends of documents may follow. -/
def noMore : Composing Unit := do
  skipWhile (· == .documentEnd)
  if (← next?).isSome then
    skipWhile Token.isDirective
    let _ ← next?
    throw .illFormed

/-- The only document of a stream. -/
def document : Composing Document := do
  let id ← root (4 * (← get).stream.tokens.length + 16)
  noMore
  return ⟨(← get).nodes, id⟩

end Composing

/-- The only document of a stream. -/
def Document.ofTokens (stream : TokenStream) : Except Fault Document :=
  Composing.document.run' { stream := stream }

end PlainScan.Yaml

import PlainScan.Text.LowerCase
import PlainScan.Text.Pieces

namespace PlainScan

/-!
# File paths

Paths with slashes between their components.  Empty components and single dots vanish, two
leading slashes stay apart from one or from three, and pairs of dots stay as they are.

* `FilePath.parse` — the path that a text denotes; `FilePath.text` writes it.
* `FilePath.name`, `FilePath.suffix` — the last component and its ending.
* `FilePath.directories` — everything before the last component, the root included.
* `FilePath.relativeTo?` — what remains of a path below another one.
* `FilePath.parent` — the path without its last component.
-/

/-- A path: its leading slashes and its components. -/
structure FilePath where
  root : String
  components : List String
  deriving DecidableEq, Repr, Inhabited

namespace FilePath

/-! ### Reading and writing -/

/-- The root of a path: exactly two leading slashes are kept, any other number counts as one. -/
def rootOf (text : List Char) : String :=
  match (text.takeWhile (· == '/')).length with
  | 0 => ""
  | 2 => "//"
  | _ => "/"

/-- Whether a component says where to go. -/
def isProper (component : List Char) : Bool := !component.isEmpty && component != ['.']

/-- The path that a text denotes. -/
def parse (text : String) : FilePath :=
  let chars := text.toList
  ⟨rootOf chars, ((Text.pieces '/' chars).filter isProper).map String.ofList⟩

/-- The written path; the empty path is a dot. -/
def text (p : FilePath) : String :=
  if p.root.isEmpty && p.components.isEmpty then "."
  else p.root ++ "/".intercalate p.components

/-- Whether the path starts at a root. -/
def isAbsolute (p : FilePath) : Bool := !p.root.isEmpty

/-! ### Parts -/

/-- The last component, or nothing for a bare root and the empty path. -/
def name (p : FilePath) : String := (p.components.getLast?).getD ""

/-- The root, if there is one, and the components. -/
def parts (p : FilePath) : List String :=
  (if p.root.isEmpty then [] else [p.root]) ++ p.components

/-- All parts but the last. -/
def directories (p : FilePath) : List String := p.parts.dropLast

/-- The ending of a name: from its last dot on, unless that dot is first or last. -/
def suffixOf (name : List Char) : List Char :=
  let ending := (name.reverse.takeWhile (· != '.')).reverse
  if ending.isEmpty || name.length ≤ ending.length + 1 then []
  else '.' :: ending

/-- The ending of the last component. -/
def suffix (p : FilePath) : String := String.ofList (suffixOf p.name.toList)

/-- The ending of the last component in lower case. -/
def lowerSuffix (p : FilePath) : String := Text.lowerString p.suffix

/-- The last component in lower case. -/
def lowerName (p : FilePath) : String := Text.lowerString p.name

/-! ### Relative paths -/

/-- What remains of a path below `base`. -/
def relativeTo? (p base : FilePath) : Option FilePath :=
  if p.root == base.root && base.components.isPrefixOf p.components then
    some ⟨"", p.components.drop base.components.length⟩
  else none

/-- The path with another component at its end. -/
def child (p : FilePath) (component : String) : FilePath :=
  { p with components := p.components ++ [component] }

/-- The path that leads on by some components. -/
def below (p : FilePath) (components : List String) : FilePath :=
  { p with components := p.components ++ components }

/-- The path without its last component. -/
def parent (p : FilePath) : FilePath := { p with components := p.components.dropLast }

end FilePath

end PlainScan

import PlainScan.FileTree.Standpoint

namespace PlainScan

/-!
# Real paths

Where a path leads once every link on the way is replaced by its target.  The path need not lead
to anything: names under which nothing lies are kept, and a pair of dots leads back from them and
from regular files as it does from directories.

* `Directory.linkAt?` — the target of a link.
* `Directory.stride` — one component of a path; `Directory.realPath` — all of them.
* `Directory.resolve?` — where a path leads from another one.
-/

namespace Directory

/-- The target of the link at a path of names, if a link lies there. -/
def linkAt? (root : Directory) (names : List String) : Option String :=
  match root.lookup? names with
  | some (.link target) => some target
  | _ => none

/-- One component of a path, from the place where it has led so far.  A link is left to
    `through`, which is given the place where its target starts and the components of that. -/
def stride (root : Directory) (through : List String → List String → Option (List String))
    (here : List String) (name : String) : Option (List String) :=
  if name == "." then some here
  else if name == ".." then some here.dropLast
  else
    match root.linkAt? (here ++ [name]) with
    | none => some (here ++ [name])
    | some target => through (targetStart here target) (targetComponents target)

/-- Where a path leads from a directory, unless it leads into links that need more than `depth`
    further links to be followed, as links do that lead in circles. -/
def realPath (root : Directory) : Nat → List String → List String → Option (List String)
  | 0, here, path => path.foldlM (root.stride fun _ _ => none) here
  | depth + 1, here, path => path.foldlM (root.stride (realPath root depth)) here

/-- Where a path leads from a base, unless its links lead nowhere.  However many slashes it starts
    with, what it leads to starts with one. -/
def resolve? (root : Directory) (base path : FilePath) : Option FilePath :=
  let start := if path.isAbsolute then [] else base.components
  (root.realPath Standpoint.linkLimit start path.components).map fun names => ⟨"/", names⟩

end Directory

end PlainScan

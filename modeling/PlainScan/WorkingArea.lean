import PlainScan.FileTree.Standpoint
import PlainScan.FileTree.Walk

namespace PlainScan

/-!
# The working area

The directory that the analyzers look at.

* `WorkingArea` — where it lies, by the path that was given and without links, and its content.
* `WorkingArea.relative`, `WorkingArea.relativeText` — a path below the area; nothing outside the
  area shows more than its last component.
* `WorkingArea.walk?` — what a walk through the area comes upon.
-/

/-- The directory that the analyzers look at; there may be none. -/
structure WorkingArea where
  location : FilePath
  resolved : FilePath
  content : Option Directory
  deriving Inhabited

namespace WorkingArea

/-- A path relative to the area.  An absolute path outside of it is reduced to its last
    component. -/
def relative (area : WorkingArea) (path : FilePath) : FilePath :=
  if !path.isAbsolute then path
  else
    match path.relativeTo? area.location, path.relativeTo? area.resolved with
    | some rest, _ => rest
    | none, some rest => rest
    | none, none => ⟨"", [path.name]⟩

/-- The path that a text denotes, written relative to the area. -/
def relativeText (area : WorkingArea) (text : String) : String :=
  (area.relative (FilePath.parse text)).text

/-- A file below the area with the path that leads to it by way of the area. -/
def placed (area : WorkingArea) (f : WalkedFile) : WalkedFile :=
  { f with path := area.location.below f.path.components }

/-- What a walk through the area comes upon, unless there is no area. -/
def walk? (area : WorkingArea) (ignored : List String) (deadline : Deadline) :
    Option WalkResult :=
  area.content.map fun root =>
    let walk := root.walk ignored deadline
    { walk with files := walk.files.map area.placed }

/-- Whether a name at the root of the area leads to a regular file. -/
def hasFile (area : WorkingArea) (name : String) : Bool :=
  match area.content with
  | some entries => (Standpoint.inside entries area.resolved.components).isFile (.parse name)
  | none => false

end WorkingArea

end PlainScan

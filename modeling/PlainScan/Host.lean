import PlainScan.FileTree.RealPath
import PlainScan.WorkingArea

namespace PlainScan

/-!
# The file system around working areas

* `Removal` — what came of removing a directory.
* `Host` — all files of a machine, the directory in which working areas are made, and how the
  machine removes directories.
* `Host.openArea`, `Host.closeArea` — a fresh working area, and its removal.
* `Host.write` — a file stored at an absolute path.
* `Host.areas` — the working areas that are there.
-/

open PlainScan.Text (Bytes)

/-! ### Removal -/

/-- What came of removing a directory: what is left of it, and whether the removal broke.  A removal
    that passes over what it cannot remove leaves something without breaking. -/
structure Removal where
  left : Option Directory := none
  breaks : Bool := false
  deriving Inhabited

namespace Removal

/-- Whether more than a number of directories are inside each other, this one included. -/
def isDeeper : Nat → Directory → Bool
  | 0, _ => true
  | levels + 1, entries =>
    entries.any fun e =>
      match e.2 with
      | .directory inner => isDeeper levels inner
      | _ => false

/-- A removal that goes into directories by calls inside each other: it breaks on a directory that
    is too deep.  What it has removed by then is not told apart. -/
def upTo (levels : Nat) : Option Directory → Removal
  | some entries => if isDeeper levels entries then ⟨some entries, true⟩ else {}
  | none => {}

/-- How many calls inside each other fit on the stack.  How many that are depends on the calls that
    were made before. -/
def levelLimit : Nat := 985

end Removal

/-! ### Machines -/

/-- The files of a machine, the names that lead to the directory for temporary things, and what
    comes of removing the directory at a path, where there is one. -/
structure Host where
  files : Directory
  temporary : List String
  removal : FilePath → Option Directory → Removal
  deriving Inhabited

namespace Host

/-! ### Names -/

/-- What the names of working areas begin with. -/
def areaMark : String := "lumenclew-"

/-- The number of characters of the longest name. -/
def longest (names : List String) : Nat := names.foldl (fun n name => max n name.length) 0

/-- A name for a working area that is longer, hence different, from all the given names. -/
def freshName (taken : List String) : String :=
  areaMark ++ String.ofList (List.replicate (longest taken + 1) '0')

/-! ### Directories -/

/-- The entries of the directory at a path of names, if there is one. -/
def directory? (h : Host) (path : List String) : Option Directory :=
  match h.files.lookup? path with
  | some (.directory entries) => some entries
  | _ => none

/-- The names of the working areas that are there. -/
def areas (h : Host) : List String :=
  (((h.directory? h.temporary).getD []).map (·.1)).filter fun name =>
    Text.startsWith areaMark.toList name.toList

/-- Where a working area of a name lies. -/
def locate (h : Host) (name : String) : FilePath := ⟨"/", h.temporary ++ [name]⟩

/-- Makes an empty working area, unless there is no directory for temporary things. -/
def openArea (h : Host) : Option (FilePath × Host) :=
  match h.directory? h.temporary with
  | none => none
  | some entries =>
    let location := h.locate (freshName (entries.map (·.1)))
    let placement := h.files.place (fun _ => true) location.components (.directory [])
    some (location, { h with files := placement.tree })

/-- Removes a working area with all it holds, as far as that is possible, and tells whether the
    removal broke. -/
def closeArea (h : Host) (location : FilePath) : Host × Bool :=
  let removal := h.removal location (h.directory? location.components)
  let cleared := h.files.remove location.components
  match removal.left with
  | none => ({ h with files := cleared }, removal.breaks)
  | some entries =>
    let placement := cleared.place (fun _ => true) location.components (.directory entries)
    ({ h with files := placement.tree }, removal.breaks)

/-- What the analyzers find at a location. -/
def area (h : Host) (location : FilePath) : WorkingArea :=
  ⟨location, location, h.directory? location.components⟩

/-! ### Files -/

/-- Whether a path is not too long for the file system. -/
def reaches (path : FilePath) : Bool := Text.nameSize path.text ≤ Standpoint.pathLimit

/-- Makes a directory with those above it, as far as that is possible. -/
def makeDirectory (h : Host) (path : FilePath) : Host :=
  if reaches path then
    { h with files := (h.files.place Directory.fits path.components (.directory [])).tree }
  else h

/-- Stores a file, with the directories above it, and tells whether it could be stored.  Where only
    the path of the file itself is too long, the directories are made. -/
def write (h : Host) (path : FilePath) (content : Bytes) : Host × Bool :=
  if reaches path then
    let placement := h.files.place Directory.fits path.components (.file content)
    ({ h with files := placement.tree }, placement.stored)
  else (h.makeDirectory path.parent, false)

end Host

end PlainScan

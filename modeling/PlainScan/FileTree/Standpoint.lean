import PlainScan.FileTree.Basic

namespace PlainScan

/-!
# Following paths

A path is followed name by name from a directory of a tree, through links.

* `PathFault` — why a path cannot be followed to its end.
* `Destination` — where a path leads: to a node, or to a name that is free in a directory.
* `Standpoint` — a tree and the directory from which relative paths start.
* `Standpoint.find` — what lies at a path; a `PathLookup` tells that of every path.
* `Standpoint.store?` — a file stored at a path, in a directory that is there.
-/

open PlainScan.Text (Bytes)

/-- Why a path cannot be followed to its end.  Links may lead in circles, and neither a path nor
    the names on it can be arbitrarily long or hold a null character. -/
inductive PathFault where
  | notFound
  | notDirectory
  | endlessLinks
  | tooLong
  | nullCharacter
  deriving DecidableEq, Repr, Inhabited

/-- Whether a path with a fault counts as one at which nothing lies. -/
def PathFault.isAbsence : PathFault → Bool
  | tooLong => false
  | _ => true

/-- What lies at each path. -/
abbrev PathLookup := FilePath → Except PathFault FileNode

/-- Where a path leads, with the names that lead there without links. -/
inductive Destination where
  | node (location : List String) (node : FileNode)
  | free (location : List String)
  deriving Inhabited

/-! ### Paths of links -/

/-- The components of the target of a link; what ends in a slash has to be a directory. -/
def targetComponents (target : String) : List String :=
  let components := ((Text.pieces '/' target.toList).filter fun c => !c.isEmpty).map String.ofList
  if target.toList.getLast? == some '/' then components ++ ["."] else components

/-- Where the target of a link in a directory starts. -/
def targetStart (here : List String) (target : String) : List String :=
  if target.toList.head? == some '/' then [] else here

namespace Directory

/-- Follows components from a directory of the tree, through at most a number of links. -/
def follow (root : Directory) (links : Nat) (here : List String) (path : List String) :
    Except PathFault Destination :=
  match path with
  | [] =>
    match root.lookup? here with
    | some node => .ok (.node here node)
    | none => .error .notFound
  | name :: rest =>
    if name == "." then follow root links here rest
    else if name == ".." then follow root links here.dropLast rest
    else if !fits name then .error .tooLong
    else
      let there := here ++ [name]
      match root.lookup? there with
      | none => if rest.isEmpty then .ok (.free there) else .error .notFound
      | some (.directory _) => follow root links there rest
      | some (.file content) =>
        if rest.isEmpty then .ok (.node there (.file content)) else .error .notDirectory
      | some (.link target) =>
        match links with
        | 0 => .error .endlessLinks
        | links + 1 =>
          follow root links (targetStart here target) (targetComponents target ++ rest)
termination_by (links, path.length)

end Directory

/-! ### Standpoints -/

/-- A tree of files, and the names that lead to the directory from which relative paths start. -/
structure Standpoint where
  root : Directory
  here : List String := []
  deriving Inhabited

namespace Standpoint

/-- How many links a path may lead through. -/
def linkLimit : Nat := 40

/-- How many bytes a path may have. -/
def pathLimit : Nat := 4095

/-- Where a path leads. -/
def locate (s : Standpoint) (path : FilePath) : Except PathFault Destination :=
  if path.text.toList.contains '\x00' then .error .nullCharacter
  else if pathLimit < Text.nameSize path.text then .error .tooLong
  else s.root.follow linkLimit (if path.isAbsolute then [] else s.here) path.components

/-- What lies at a path. -/
def find (s : Standpoint) : PathLookup := fun path =>
  match s.locate path with
  | .ok (.node _ node) => .ok node
  | .ok (.free _) => .error .notFound
  | .error fault => .error fault

/-- Stores a file at a path, in a directory that is there. -/
def store? (s : Standpoint) (path : FilePath) (content : Bytes) : Option Standpoint :=
  let put (location : List String) : Standpoint :=
    { s with root := (s.root.place Directory.fits location (.file content)).tree }
  match s.locate path with
  | .ok (.node location (.file _)) => some (put location)
  | .ok (.free location) => some (put location)
  | _ => none

/-- The standpoint inside a directory that lies at a path of names, with nothing around it. -/
def inside (entries : Directory) (location : List String) : Standpoint :=
  ⟨location.foldr (fun name inner => [(name, .directory inner)]) entries, location⟩

/-- Whether a path leads to a regular file. -/
def isFile (s : Standpoint) (path : FilePath) : Bool :=
  match s.find path with
  | .ok (.file _) => true
  | _ => false

end Standpoint

end PlainScan

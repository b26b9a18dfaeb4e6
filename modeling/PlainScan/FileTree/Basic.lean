import PlainScan.FilePath
import PlainScan.Text.Surrogate
import PlainScan.Text.Utf8

namespace PlainScan

/-!
# Trees of files

* `FileNode` — a regular file, a directory or a symbolic link; a `Directory` is a list of named
  nodes.
* `Directory.lookup?` — the node at a path of names.
* `Directory.place` — a node stored at a path, with the directories above it.
* `Directory.remove` — a node taken away.
* `Directory.fits` — whether a name can be stored at all.
-/

open PlainScan.Text (Bytes)

/-- What a name in a directory stands for. -/
inductive FileNode where
  | file (content : Bytes)
  | directory (entries : List (String × FileNode))
  | link (target : String)
  deriving Inhabited

/-- The named nodes of a directory. -/
abbrev Directory := List (String × FileNode)

namespace Directory

/-! ### Single names -/

/-- The node of a name. -/
def get? (entries : Directory) (name : String) : Option FileNode :=
  (entries.find? fun e => e.1 == name).map (·.2)

/-- Gives a name a node, in its place or at the end. -/
def set (entries : Directory) (name : String) (node : FileNode) : Directory :=
  match entries with
  | [] => [(name, node)]
  | (n, old) :: rest => if n == name then (n, node) :: rest else (n, old) :: set rest name node

/-! ### Paths of names -/

/-- The node at a path of names, links not followed. -/
def lookup? (entries : Directory) : List String → Option FileNode
  | [] => some (.directory entries)
  | [name] => get? entries name
  | name :: rest =>
    match get? entries name with
    | some (.directory inner) => lookup? inner rest
    | _ => none

/-- The outcome of an attempt to store a node: the tree afterwards, in which directories may have
    been made although the node could not be stored, and whether it was. -/
structure Placement where
  tree : Directory
  stored : Bool
  deriving Inhabited

/-- Stores a node at a path of names and makes the directories above it.  A file in place of a
    directory, a directory in place of the node and a name that `fits` refuses stop the attempt;
    the directories made before that remain. -/
def place (fits : String → Bool) (entries : Directory) (path : List String) (node : FileNode) :
    Placement :=
  match path with
  | [] => ⟨entries, false⟩
  | [name] =>
    if !fits name then ⟨entries, false⟩
    else
      match get? entries name, node with
      | some (.directory _), .directory _ => ⟨entries, true⟩
      | some (.directory _), _ => ⟨entries, false⟩
      | _, _ => ⟨set entries name node, true⟩
  | name :: rest =>
    if !fits name then ⟨entries, false⟩
    else
      match get? entries name with
      | none =>
        let inner := place fits [] rest node
        ⟨set entries name (.directory inner.tree), inner.stored⟩
      | some (.directory old) =>
        let inner := place fits old rest node
        ⟨set entries name (.directory inner.tree), inner.stored⟩
      | some _ => ⟨entries, false⟩

/-- Takes the node at a path of names away. -/
def remove (entries : Directory) : List String → Directory
  | [] => entries
  | [name] => entries.filter fun e => e.1 != name
  | name :: rest =>
    match get? entries name with
    | some (.directory inner) => set entries name (.directory (remove inner rest))
    | _ => entries

/-! ### Names that fit -/

/-- Whether a file system can store a name. -/
def fits (name : String) : Bool := Text.nameSize name ≤ 255

end Directory

end PlainScan

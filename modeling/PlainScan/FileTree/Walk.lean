import PlainScan.FileTree.Basic
import PlainScan.Number.Basic

namespace PlainScan

/-!
# Walking a tree

A walk goes through one directory after another.  In each it visits the entries in the order of
their names; it comes upon the regular files among them, and the subdirectories that are not ignored
wait on a stack.  Links are visited but not followed.  A directory that the system refuses to list
is passed over, so an empty one stands for it.  A clock that moves on with every visit may cut the
walk short.

* `Deadline` — when a walk has to stop.
* `Passage.through` — the entries of one directory, visited one after another.
* `PendingDirectory.push` — subdirectories put on the stack, the first of them on top.
* `Directory.walkStack` — the directories on the stack, gone through until none is left.
* `Directory.walk` — the regular files of a tree up to the deadline, and whether the walk was cut.
-/

open PlainScan.Text (Bytes)

/-! ### Deadlines -/

/-- A clock moves on by `step` with every visit; the walk stops when it has passed `timeout`. -/
structure Deadline where
  step : Number
  timeout : Number
  deriving Repr, Inhabited

/-- Whether the visit with this number, counted from one, comes too late. -/
def Deadline.isPast (d : Deadline) (visit : Nat) : Bool := d.step.timesExceeds visit d.timeout

/-- The step of a clock that nobody sets: a microsecond. -/
def Deadline.naturalStep : Number := .real (.ofDecimal false 1 (-6))

/-! ### Entries -/

namespace FileNode

/-- Whether an entry stands before another one or has the same name, by the code points of the
    names. -/
def entryLe (a b : String × FileNode) : Bool :=
  !Text.isBefore b.1 a.1

mutual

/-- The number of directories in a node, itself included. -/
def directoryCount : FileNode → Nat
  | .directory entries => directoriesAmong entries + 1
  | _ => 0

/-- The number of directories among some entries and below them. -/
def directoriesAmong : List (String × FileNode) → Nat
  | [] => 0
  | (_, node) :: rest => directoryCount node + directoriesAmong rest

end

/-- The order of the entries does not matter. -/
theorem directoriesAmong_of_perm {one other : Directory} (h : one.Perm other) :
    directoriesAmong one = directoriesAmong other := by
  induction h with
  | nil => rfl
  | cons e _ ih => rw [directoriesAmong, directoriesAmong, ih]
  | swap e f rest =>
    simp only [directoriesAmong]
    omega
  | trans _ _ ih ih' => rw [ih, ih']

end FileNode

/-! ### One directory -/

/-- A regular file met on a walk. -/
structure WalkedFile where
  path : FilePath
  content : Bytes
  deriving Inhabited

/-- A directory that a walk has still to go through, and the names that lead to it. -/
structure PendingDirectory where
  path : List String
  entries : Directory
  deriving Inhabited

/-- What a walk meets in one directory: the regular files, the subdirectories that are not ignored,
    and whether it was cut there. -/
structure Passage where
  files : List WalkedFile := []
  subdirectories : List PendingDirectory := []
  timedOut : Bool := false
  deriving Inhabited

/-- Visits the entries of the directory at `path` in turn; the first of them has the given number.
    The clock is read before an entry is looked at, whatever it is. -/
def Passage.through (ignored : List String) (deadline : Deadline) (path : List String) :
    Nat → Directory → Passage
  | _, [] => {}
  | number, (name, node) :: rest =>
    if deadline.isPast number then { timedOut := true }
    else
      let more := through ignored deadline path (number + 1) rest
      match node with
      | .directory entries =>
        if ignored.contains name then more
        else { more with subdirectories := ⟨path ++ [name], entries⟩ :: more.subdirectories }
      | .file content => { more with files := ⟨⟨"", path ++ [name]⟩, content⟩ :: more.files }
      | .link _ => more

/-! ### The stack -/

namespace PendingDirectory

/-- Puts directories on a stack, the last one first, so that the first one comes off first. -/
def push (stack found : List PendingDirectory) : List PendingDirectory :=
  found.reverse.foldl (fun below d => d :: below) stack

/-- The number of directories that are still to be gone through, those below included. -/
def count : List PendingDirectory → Nat
  | [] => 0
  | d :: rest => FileNode.directoriesAmong d.entries + 1 + count rest

theorem push_eq (stack found : List PendingDirectory) : push stack found = found ++ stack := by
  simp [push]

theorem count_append (one other : List PendingDirectory) :
    count (one ++ other) = count one + count other := by
  induction one with
  | nil => simp [count]
  | cons d rest ih => simp [count, ih, Nat.add_assoc]

end PendingDirectory

/-- No more directories are put on the stack than there are below the one that is gone through. -/
theorem Passage.count_through_le (ignored : List String) (deadline : Deadline)
    (path : List String) (number : Nat) (entries : Directory) :
    PendingDirectory.count (through ignored deadline path number entries).subdirectories
      ≤ FileNode.directoriesAmong entries := by
  induction entries generalizing number with
  | nil => simp [through, PendingDirectory.count]
  | cons e rest ih =>
    obtain ⟨name, node⟩ := e
    have hrest := ih (number + 1)
    unfold through
    split
    · simp [PendingDirectory.count]
    · cases node with
      | directory entries =>
        simp only [FileNode.directoriesAmong, FileNode.directoryCount]
        split
        · omega
        · simp only [PendingDirectory.count]
          omega
      | file content =>
        simp only [FileNode.directoriesAmong, FileNode.directoryCount]
        omega
      | link target =>
        simp only [FileNode.directoriesAmong, FileNode.directoryCount]
        omega

/-! ### Walks -/

/-- What a walk came upon. -/
structure WalkResult where
  files : List WalkedFile
  timedOut : Bool
  deriving Inhabited

namespace Directory

/-- Goes through the directories on a stack and through those that they put on it, until the stack
    is empty or the deadline has passed.  The next visit has the given number. -/
def walkStack (ignored : List String) (deadline : Deadline) (number : Nat) :
    List PendingDirectory → WalkResult
  | [] => ⟨[], false⟩
  | here :: stack =>
    let entries := here.entries.mergeSort FileNode.entryLe
    let passage := Passage.through ignored deadline here.path number entries
    if passage.timedOut then ⟨passage.files, true⟩
    else
      let rest := walkStack ignored deadline (number + entries.length)
        (PendingDirectory.push stack passage.subdirectories)
      ⟨passage.files ++ rest.files, rest.timedOut⟩
termination_by stack => PendingDirectory.count stack
decreasing_by
  have hsorted := FileNode.directoriesAmong_of_perm
    (List.mergeSort_perm here.entries FileNode.entryLe)
  have hpushed := Passage.count_through_le ignored deadline here.path number
    (here.entries.mergeSort FileNode.entryLe)
  simp only [PendingDirectory.push_eq, PendingDirectory.count_append, PendingDirectory.count]
  omega

/-- The regular files of a tree in the order of the walk, up to its deadline. -/
def walk (root : Directory) (ignored : List String) (deadline : Deadline) : WalkResult :=
  walkStack ignored deadline 1 [⟨[], root⟩]

end Directory

end PlainScan

import Mathlib.Data.List.Nodup
import Mathlib.Data.List.Perm.Basic
import Mathlib.Data.Option.Basic
import PlainScan.FileTree.Walk
import PlainScan.Proofs.FileTree.Lookup
import PlainScan.Proofs.FileTree.Stack
import PlainScan.Proofs.FileTree.Visits
import PlainScan.Proofs.Text.Surrogate

namespace PlainScan

/-!
# Trees that are alike

Two trees are alike if the same lies at every path of both.  The order in which directories list
their entries is no part of this, and as a walk brings them into the order of their names it does
not show in a walk either.

* `FileNode.Alike` — the same lies at every path below two nodes.
* `FileNode.Alike.get?` — in directories that are alike a name stands for nodes that are alike.
* `FileNode.sorted_eq_of_alike` — sorted trees that are alike are equal.
* `Directory.walk_eq_of_alike` — walks through trees that are alike come upon the same.
-/

open PlainScan.Text (Bytes)

namespace FileNode

/-- What can be seen of a node from outside: of a directory, only that it is one. -/
def outside : FileNode → FileNode
  | .directory _ => .directory []
  | node => node

/-- The same lies at every path below two nodes. -/
def Alike (one other : FileNode) : Prop :=
  ∀ path, (one.below? path).map outside = (other.below? path).map outside

/-! ### One level -/

/-- If what lies at each path below two directories is related, then also below what a name stands
    for in them, or it stands for nothing in both. -/
theorem rel_get? {S : FileNode → FileNode → Prop} {entries listed : Directory}
    (h : ∀ path, Option.Rel S ((FileNode.directory entries).below? path)
      ((FileNode.directory listed).below? path)) (name : String) :
    Option.Rel (fun one other => ∀ path, Option.Rel S (one.below? path) (other.below? path))
      (entries.get? name) (listed.get? name) := by
  have hname : ∀ rest, Option.Rel S ((entries.get? name).bind (·.below? rest))
      ((listed.get? name).bind (·.below? rest)) := by
    intro rest
    have hpath := h (name :: rest)
    rwa [below?_directory, below?_directory, Directory.lookup?_cons,
      Directory.lookup?_cons] at hpath
  -- with no path behind the name, both sides are there or neither is
  have hroot := hname []
  generalize entries.get? name = here at hname hroot ⊢
  generalize listed.get? name = there at hname hroot ⊢
  cases here with
  | none =>
    cases there with
    | none => exact .none
    | some node =>
      rw [Option.bind_none, Option.bind_some, below?_nil] at hroot
      cases hroot
  | some node =>
    cases there with
    | none =>
      rw [Option.bind_none, Option.bind_some, below?_nil] at hroot
      cases hroot
    | some found => exact .some hname

/-- The same from outside, or nothing at all. -/
theorem map_outside_eq_iff {one other : Option FileNode} :
    one.map outside = other.map outside
      ↔ Option.Rel (fun node found => node.outside = found.outside) one other := by
  cases one <;> cases other <;> simp

namespace Alike

variable {one other : FileNode}

/-- The nodes themselves are the same from outside. -/
theorem outside_eq (h : one.Alike other) : one.outside = other.outside := by
  have hroot := h []
  rwa [below?_nil, below?_nil, Option.map_some, Option.map_some, Option.some.injEq] at hroot

/-- What is like a regular file is that file. -/
theorem eq_file {content : Bytes} (h : (FileNode.file content).Alike other) :
    other = .file content := by
  have houtside := h.outside_eq
  cases other with
  | directory entries => cases houtside
  | _ => exact houtside.symm

/-- What is like a link is that link. -/
theorem eq_link {target : String} (h : (FileNode.link target).Alike other) :
    other = .link target := by
  have houtside := h.outside_eq
  cases other with
  | directory entries => cases houtside
  | _ => exact houtside.symm

/-- What is like a directory is a directory. -/
theorem exists_directory {entries : Directory} (h : (FileNode.directory entries).Alike other) :
    ∃ listed : Directory, other = .directory listed := by
  have houtside := h.outside_eq
  cases other with
  | directory listed => exact ⟨listed, rfl⟩
  | _ => cases houtside

/-- In directories that are alike a name stands for nodes that are alike, or for none in both. -/
theorem get? {entries listed : Directory}
    (h : (FileNode.directory entries).Alike (.directory listed)) (name : String) :
    Option.Rel Alike (entries.get? name) (listed.get? name) := by
  have hname := rel_get? (fun path => map_outside_eq_iff.mp (h path)) name
  generalize entries.get? name = here at hname ⊢
  generalize listed.get? name = there at hname ⊢
  cases hname with
  | none => exact .none
  | some hnode => exact .some fun path => map_outside_eq_iff.mpr (hnode path)

/-- Directories in which every name stands for the same are alike. -/
theorem of_get?_eq {entries listed : Directory} (h : ∀ name, entries.get? name = listed.get? name) :
    (FileNode.directory entries).Alike (.directory listed) := by
  intro path
  cases path with
  | nil => rfl
  | cons name rest =>
    rw [below?_directory, below?_directory, Directory.lookup?_cons, Directory.lookup?_cons, h]

end Alike

/-! ### Sorted trees -/

/-- Sorting what is in the entries leaves their names as they are. -/
theorem map_fst_sortedEntries (entries : Directory) :
    (sortedEntries entries).map (·.1) = entries.map (·.1) := by
  rw [sortedEntries_eq, List.map_map]
  rfl

/-- Behind each name there is what was there before, sorted. -/
theorem get?_sortedEntries (entries : Directory) (name : String) :
    Directory.get? (sortedEntries entries) name = (entries.get? name).map sorted := by
  rw [sortedEntries_eq, Directory.get?, Directory.get?, List.find?_map, Option.map_map,
    Option.map_map]
  rfl

theorem entryLe_trans (a b c : String × FileNode) (h : entryLe a b = true)
    (h' : entryLe b c = true) : entryLe a c = true := by
  simp only [entryLe, Bool.not_eq_true'] at h h' ⊢
  exact Text.not_isBefore_trans h h'

theorem entryLe_total (a b : String × FileNode) : (entryLe a b || entryLe b a) = true := by
  simp only [entryLe, Bool.or_eq_true, Bool.not_eq_true']
  exact Text.not_isBefore_total _ _

/-- Entries that stand before each other have the same name. -/
theorem entryLe_antisymm {a b : String × FileNode} (h : entryLe a b = true)
    (h' : entryLe b a = true) : a.1 = b.1 := by
  simp only [entryLe, Bool.not_eq_true'] at h h'
  exact Text.eq_of_not_isBefore h h'

/-- Where names differ the order of the names leaves no choice. -/
theorem mergeSort_eq_of_perm {one other : Directory} (hone : (one.map (·.1)).Nodup)
    (hperm : one.Perm other) : one.mergeSort entryLe = other.mergeSort entryLe := by
  have hsorted := (List.mergeSort_perm one entryLe).trans
    (hperm.trans (List.mergeSort_perm other entryLe).symm)
  refine List.Perm.eq_of_pairwise ?_ (List.pairwise_mergeSort entryLe_trans entryLe_total one)
    (List.pairwise_mergeSort entryLe_trans entryLe_total other) hsorted
  -- two entries that stand before each other have one name, and so they are one entry
  intro a b ha hb hab hba
  rw [List.mem_mergeSort] at ha hb
  exact List.inj_on_of_nodup_map hone ha (hperm.mem_iff.mpr hb) (entryLe_antisymm hab hba)

/-- Entries under different names are the same if each name stands for the same. -/
theorem perm_of_get?_eq {one other : Directory} (hone : (one.map (·.1)).Nodup)
    (hother : (other.map (·.1)).Nodup) (h : ∀ name, one.get? name = other.get? name) :
    one.Perm other := by
  refine (List.perm_ext_iff_of_nodup hone.of_map hother.of_map).mpr ?_
  rintro ⟨name, node⟩
  rw [Directory.mem_iff_get? hone, Directory.mem_iff_get? hother, h]

/-- **Sorted trees.** Where names differ, trees that are alike are equal once they are sorted. -/
theorem sorted_eq_of_alike {one other : FileNode} (hone : one.Throughout NamesDiffer)
    (hother : other.Throughout NamesDiffer) (h : one.Alike other) : one.sorted = other.sorted := by
  induction one using byEntries generalizing other with
  | file content => rw [h.eq_file]
  | link target => rw [h.eq_link]
  | directory entries ih =>
    obtain ⟨listed, rfl⟩ := h.exists_directory
    have hentries : (entries.map (·.1)).Nodup := hone [] _ (below?_nil _)
    have hlisted : (listed.map (·.1)).Nodup := hother [] _ (below?_nil _)
    -- a name stands for nodes that are alike, which by the induction are the same once sorted
    have hsame : ∀ name, (entries.get? name).map sorted = (listed.get? name).map sorted := by
      intro name
      have hrel := h.get? name
      generalize hget : entries.get? name = here at hrel ⊢
      generalize hget' : listed.get? name = there at hrel ⊢
      cases hrel with
      | none => rfl
      | some halike =>
        have hmem := (Directory.mem_iff_get? hentries).mpr hget
        exact congrArg some (ih _ hmem (Directory.throughout_of_get? hone hget)
          (Directory.throughout_of_get? hother hget') halike)
    -- the same entries in any order come into one order
    rw [sorted, sorted]
    refine congrArg FileNode.directory (mergeSort_eq_of_perm ?_ (perm_of_get?_eq ?_ ?_ ?_))
    · rwa [map_fst_sortedEntries]
    · rwa [map_fst_sortedEntries]
    · rwa [map_fst_sortedEntries]
    · intro name
      rw [get?_sortedEntries, get?_sortedEntries, hsame]

end FileNode

/-- **Walks.** Walks through trees that are alike come upon the same files and are cut alike. -/
theorem Directory.walk_eq_of_alike {one other : Directory}
    (hone : (FileNode.directory one).Throughout FileNode.NamesDiffer)
    (hother : (FileNode.directory other).Throughout FileNode.NamesDiffer)
    (h : (FileNode.directory one).Alike (.directory other)) (ignored : List String)
    (deadline : Deadline) : one.walk ignored deadline = other.walk ignored deadline := by
  have hsorted := FileNode.sorted_eq_of_alike hone hother h
  rw [FileNode.sorted, FileNode.sorted, FileNode.directory.injEq] at hsorted
  have hroot : Directory.sorted one = Directory.sorted other := hsorted
  rw [walk_eq, walk_eq, visits, visits, hroot]

end PlainScan

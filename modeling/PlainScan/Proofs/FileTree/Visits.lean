import Mathlib.Data.List.Perm.Basic
import Mathlib.Data.List.Nodup
import PlainScan.FileTree.Walk
import PlainScan.Proofs.FileTree.Lookup

namespace PlainScan

/-!
# What a walk visits

The visits of a walk, told by recursion on the tree: all entries of a directory in the order of
their names, then what is visited in its subdirectories.  So a walk visits what lies at the paths
of a tree outside the ignored directories, each path once.

* `FileNode.sorted` — every directory in the order of names; `Directory.visits` — the visits.
* `FileNode.byEntries` — induction on the entries of directories; `FileNode.visitsThrough` — the
  visits inside one of them.
* `FileNode.perm_visitsInside_sorted` — the order of the entries shows only in the order of the
  visits.
* `FileNode.mem_visitsInside_iff` — what is visited; `FileNode.nodup_visitsInside` — nothing twice.
* `Directory.perm_visits` — the visits of a tree.
-/

open PlainScan.Text (Bytes)

namespace FileNode

/-! ### Order -/

mutual

/-- The node with every directory in it in the order of names. -/
def sorted : FileNode → FileNode
  | .file content => .file content
  | .link target => .link target
  | .directory entries => .directory ((sortedEntries entries).mergeSort entryLe)

/-- The entries, each with every directory in it in the order of names. -/
def sortedEntries : List (String × FileNode) → List (String × FileNode)
  | [] => []
  | (name, node) :: rest => (name, sorted node) :: sortedEntries rest

end

end FileNode

/-- The directory and all directories in it in the order of names. -/
def Directory.sorted (entries : Directory) : Directory :=
  (FileNode.sortedEntries entries).mergeSort FileNode.entryLe

/-! ### Visits -/

/-- An entry met on a walk: its path below the root, and its bytes if it is a regular file. -/
structure Visit where
  path : List String
  content : Option Bytes
  deriving Inhabited

/-- The visit to an entry of the directory at `path`. -/
def Visit.ofEntry (path : List String) (entry : String × FileNode) : Visit :=
  ⟨path ++ [entry.1], match entry.2 with | .file content => some content | _ => none⟩

/-- The regular file of a visit. -/
def Visit.file? (v : Visit) : Option WalkedFile := v.content.map fun bytes => ⟨⟨"", v.path⟩, bytes⟩

namespace FileNode

mutual

/-- The visits inside a node at `path`, if it is a directory. -/
def visitsInside (ignored : List String) (path : List String) : FileNode → List Visit
  | .directory entries =>
    entries.map (Visit.ofEntry path) ++ visitsBelow ignored path entries
  | _ => []

/-- The visits inside the subdirectories among some entries of the directory at `path`. -/
def visitsBelow (ignored : List String) (path : List String) :
    List (String × FileNode) → List Visit
  | [] => []
  | (name, node) :: rest =>
    (if ignored.contains name then [] else visitsInside ignored (path ++ [name]) node)
      ++ visitsBelow ignored path rest

end

end FileNode

/-- All visits of a walk through a tree that is never cut. -/
def Directory.visits (ignored : List String) (root : Directory) : List Visit :=
  FileNode.visitsInside ignored [] (.directory root.sorted)

namespace FileNode

/-! ### Entries -/

/-- Induction on a tree: what holds of a directory if it holds of its entries holds throughout. -/
@[elab_as_elim]
theorem byEntries {motive : FileNode → Prop} (file : ∀ content, motive (.file content))
    (link : ∀ target, motive (.link target))
    (directory : ∀ entries : Directory, (∀ e ∈ entries, motive e.2) → motive (.directory entries)) :
    ∀ node, motive node
  | .file content => file content
  | .link target => link target
  | .directory entries => directory entries fun e _ => byEntries file link directory e.2
termination_by node => sizeOf node
decreasing_by
  rename_i he
  have hentry : sizeOf e < sizeOf entries := List.sizeOf_lt_of_mem he
  have hnode : sizeOf e.2 < sizeOf e := by
    cases e
    simp only [Prod.mk.sizeOf_spec]
    omega
  simp only [FileNode.directory.sizeOf_spec]
  omega

theorem sortedEntries_eq (entries : Directory) :
    sortedEntries entries = entries.map fun e => (e.1, e.2.sorted) := by
  induction entries with
  | nil => simp [sortedEntries]
  | cons e rest ih => simp [sortedEntries, ih]

/-- The visits inside an entry of the directory at a path; an ignored one is not entered. -/
def visitsThrough (ignored path : List String) (e : String × FileNode) : List Visit :=
  if ignored.contains e.1 then [] else visitsInside ignored (path ++ [e.1]) e.2

theorem visitsBelow_eq (ignored path : List String) (entries : Directory) :
    visitsBelow ignored path entries = entries.flatMap (visitsThrough ignored path) := by
  induction entries with
  | nil => simp [visitsBelow]
  | cons e rest ih => simp [visitsBelow, visitsThrough, ih]

/-- In a directory all entries are visited, then what is in those that are not ignored. -/
theorem visitsInside_directory (ignored path : List String) (entries : Directory) :
    visitsInside ignored path (.directory entries)
      = entries.map (Visit.ofEntry path) ++ entries.flatMap (visitsThrough ignored path) := by
  rw [visitsInside, visitsBelow_eq]

theorem visitsInside_file (ignored path : List String) (content : Bytes) :
    visitsInside ignored path (.file content) = [] := by
  rw [visitsInside]
  simp

theorem visitsInside_link (ignored path : List String) (target : String) :
    visitsInside ignored path (.link target) = [] := by
  rw [visitsInside]
  simp

/-- An entry is visited alike whether or not what is in it has been sorted. -/
theorem ofEntry_sorted (path : List String) (e : String × FileNode) :
    Visit.ofEntry path (e.1, e.2.sorted) = Visit.ofEntry path e := by
  obtain ⟨name, node⟩ := e
  cases node <;> simp [Visit.ofEntry, sorted]

/-- **Order.** The order of the entries shows only in the order of the visits. -/
theorem perm_visitsInside_sorted (ignored path : List String) (node : FileNode) :
    (visitsInside ignored path node.sorted).Perm (visitsInside ignored path node) := by
  induction node using byEntries generalizing path with
  | file content => rw [sorted]
  | link target => rw [sorted]
  | directory entries ih =>
    have horder : ((sortedEntries entries).mergeSort entryLe).Perm
        (entries.map fun e => (e.1, e.2.sorted)) := by
      rw [← sortedEntries_eq]
      exact List.mergeSort_perm _ _
    -- the entries come in another order, and so do the visits inside each of them
    rw [sorted, visitsInside_directory, visitsInside_directory]
    refine List.Perm.append ?_ ?_
    · have hhere := horder.map (Visit.ofEntry path)
      simpa only [List.map_map, Function.comp_def, ofEntry_sorted] using hhere
    · have hbelow := horder.flatMap_right (visitsThrough ignored path)
      rw [List.flatMap_map] at hbelow
      refine hbelow.trans (List.Perm.flatMap_left entries fun e he => ?_)
      unfold visitsThrough
      split
      · exact List.Perm.refl []
      · exact ih e he (path ++ [e.1])

/-! ### Paths of visits -/

/-- What a regular file holds. -/
def content? : FileNode → Option Bytes
  | .file content => some content
  | _ => none

theorem ofEntry_eq (path : List String) (e : String × FileNode) :
    Visit.ofEntry path e = ⟨path ++ [e.1], e.2.content?⟩ := by
  obtain ⟨name, node⟩ := e
  cases node <;> rfl

theorem mem_visitsThrough_iff {ignored path : List String} {e : String × FileNode} {v : Visit} :
    v ∈ visitsThrough ignored path e ↔
      e.1 ∉ ignored ∧ v ∈ visitsInside ignored (path ++ [e.1]) e.2 := by
  unfold visitsThrough
  by_cases hignored : e.1 ∈ ignored <;> simp [hignored]

/-- Inside a node only what lies below it is visited. -/
theorem exists_of_mem_visitsInside {ignored path : List String} {node : FileNode} {v : Visit}
    (h : v ∈ visitsInside ignored path node) :
    ∃ name rest, v.path = path ++ name :: rest := by
  induction node using byEntries generalizing path with
  | file content => simp [visitsInside_file] at h
  | link target => simp [visitsInside_link] at h
  | directory entries ih =>
    rw [visitsInside_directory, List.mem_append] at h
    rcases h with hhere | hbelow
    · obtain ⟨e, -, rfl⟩ := List.mem_map.mp hhere
      exact ⟨e.1, [], by rw [ofEntry_eq]⟩
    · obtain ⟨e, he, hv⟩ := List.mem_flatMap.mp hbelow
      obtain ⟨name, rest, hpath⟩ := ih e he (mem_visitsThrough_iff.mp hv).2
      exact ⟨e.1, name :: rest, by rw [hpath, List.append_assoc, List.singleton_append]⟩

/-- Inside an entry only what lies below its name is visited. -/
theorem exists_of_mem_visitsThrough {ignored path : List String} {e : String × FileNode}
    {v : Visit} (h : v ∈ visitsThrough ignored path e) :
    ∃ name rest, v.path = path ++ e.1 :: name :: rest := by
  obtain ⟨name, rest, hpath⟩ := exists_of_mem_visitsInside (mem_visitsThrough_iff.mp h).2
  exact ⟨name, rest, by rw [hpath, List.append_assoc, List.singleton_append]⟩

theorem mem_map_ofEntry {path names : List String} {content : Option Bytes}
    {entries : Directory} : ⟨path ++ names, content⟩ ∈ entries.map (Visit.ofEntry path) ↔
      ∃ e ∈ entries, names = [e.1] ∧ e.2.content? = content := by
  simp only [List.mem_map, ofEntry_eq, Visit.mk.injEq, List.append_cancel_left_eq, eq_comm]

/-- The first name of a path below a directory tells in which entry it is. -/
theorem mem_flatMap_visitsThrough {ignored path names : List String} {content : Option Bytes}
    {entries : Directory} :
    ⟨path ++ names, content⟩ ∈ entries.flatMap (visitsThrough ignored path) ↔
      ∃ e ∈ entries, e.1 ∉ ignored ∧ ∃ rest, names = e.1 :: rest
        ∧ ⟨(path ++ [e.1]) ++ rest, content⟩ ∈ visitsInside ignored (path ++ [e.1]) e.2 := by
  rw [List.mem_flatMap]
  refine exists_congr fun e => and_congr_right fun _ => ?_
  constructor
  · intro h
    obtain ⟨name, rest, hpath⟩ := exists_of_mem_visitsThrough h
    have hnames : names = e.1 :: name :: rest := List.append_cancel_left hpath
    obtain ⟨hignored, hv⟩ := mem_visitsThrough_iff.mp h
    refine ⟨hignored, name :: rest, hnames, ?_⟩
    rwa [List.append_assoc, List.singleton_append, ← hnames]
  · rintro ⟨hignored, rest, rfl, hv⟩
    rw [List.append_assoc, List.singleton_append] at hv
    exact mem_visitsThrough_iff.mpr ⟨hignored, hv⟩

/-- **Visits.** What is visited inside a node is what lies below it, outside the ignored
    directories. -/
theorem mem_visitsInside_iff {ignored path : List String} {node : FileNode}
    (hnode : node.Throughout NamesDiffer) {names : List String} {content : Option Bytes} :
    ⟨path ++ names, content⟩ ∈ visitsInside ignored path node ↔
      names ≠ [] ∧ (∃ found, node.below? names = some found ∧ found.content? = content)
        ∧ ∀ name ∈ names.dropLast, name ∉ ignored := by
  induction names generalizing path node with
  | nil =>
    constructor
    · intro h
      obtain ⟨name, rest, hpath⟩ := exists_of_mem_visitsInside h
      simp at hpath
    · intro h
      exact absurd rfl h.1
  | cons name rest ih =>
    cases node with
    | file bytes => simp [visitsInside_file, below?]
    | link target => simp [visitsInside_link, below?]
    | directory entries =>
      have hnames : (entries.map (·.1)).Nodup := hnode [] _ rfl
      -- a name stands for one entry, so the entry visited is the one looked up
      have hbelow : ∀ e ∈ entries, name = e.1 → Directory.get? entries name = some e.2 := by
        rintro e he rfl
        exact (Directory.mem_iff_get? hnames).mp he
      rw [visitsInside_directory, List.mem_append, mem_map_ofEntry,
        mem_flatMap_visitsThrough, below?_directory, Directory.lookup?_cons]
      -- the visit is to the entry with the first name, or the rest of the path leads on from there
      constructor
      · rintro (⟨e, he, hname, hcontent⟩ | ⟨e, he, hignored, more, hname, hv⟩)
        · obtain ⟨rfl, rfl⟩ := List.cons.inj hname
          exact ⟨by simp, ⟨e.2, by simp [hbelow e he rfl], hcontent⟩, by simp⟩
        · obtain ⟨rfl, rfl⟩ := List.cons.inj hname
          have hget := hbelow e he rfl
          obtain ⟨hne, ⟨found, hfound, hcontent⟩, hoff⟩ :=
            (ih (Directory.throughout_of_get? hnode hget)).mp hv
          refine ⟨by simp, ⟨found, by rw [hget, Option.bind_some, hfound], hcontent⟩, ?_⟩
          rw [List.dropLast_cons_of_ne_nil hne, List.forall_mem_cons]
          exact ⟨hignored, hoff⟩
      · rintro ⟨-, ⟨found, hfound, hcontent⟩, hoff⟩
        obtain ⟨node, hget, hnode'⟩ := Option.bind_eq_some_iff.mp hfound
        have hmem := (Directory.mem_iff_get? hnames).mpr hget
        by_cases hrest : rest = []
        · subst hrest
          rw [below?_nil, Option.some.injEq] at hnode'
          exact .inl ⟨(name, node), hmem, rfl, hnode' ▸ hcontent⟩
        · rw [List.dropLast_cons_of_ne_nil hrest, List.forall_mem_cons] at hoff
          refine .inr ⟨(name, node), hmem, hoff.1, rest, rfl, ?_⟩
          exact (ih (Directory.throughout_of_get? hnode hget)).mpr
            ⟨hrest, ⟨found, hnode', hcontent⟩, hoff.2⟩

/-- **Once each.** No path is visited twice. -/
theorem nodup_visitsInside {ignored path : List String} {node : FileNode}
    (hnode : node.Throughout NamesDiffer) :
    ((visitsInside ignored path node).map Visit.path).Nodup := by
  induction node using byEntries generalizing path with
  | file content => simp [visitsInside_file]
  | link target => simp [visitsInside_link]
  | directory entries ih =>
    have hnames : (entries.map (·.1)).Nodup := hnode [] _ rfl
    have hhere : ((entries.map (Visit.ofEntry path)).map Visit.path).Nodup := by
      have hmap : (entries.map (Visit.ofEntry path)).map Visit.path
          = (entries.map (·.1)).map fun name => path ++ [name] := by
        simp [ofEntry_eq]
      rw [hmap]
      exact hnames.map fun one other h => by simpa using h
    have hbelow : ∀ e ∈ entries, ((visitsThrough ignored path e).map Visit.path).Nodup := by
      intro e he
      unfold visitsThrough
      split
      · exact List.nodup_nil
      · exact ih e he (Directory.throughout_of_mem hnames hnode he)
    have hapart : entries.Pairwise fun one other => one.1 ≠ other.1 := List.pairwise_map.mp hnames
    rw [visitsInside_directory, List.map_append, List.map_flatMap, List.nodup_append]
    refine ⟨hhere, List.nodup_flatMap.mpr ⟨hbelow, ?_⟩, ?_⟩
    · -- different entries have different names at the same place of the path
      refine hapart.imp fun {one other} hne names hone hother => ?_
      obtain ⟨v, hv, rfl⟩ := List.mem_map.mp hone
      obtain ⟨w, hw, hsame⟩ := List.mem_map.mp hother
      obtain ⟨name, rest, hpath⟩ := exists_of_mem_visitsThrough hv
      obtain ⟨name', rest', hpath'⟩ := exists_of_mem_visitsThrough hw
      rw [hpath, hpath'] at hsame
      exact hne (List.cons.inj (List.append_cancel_left hsame)).1.symm
    · -- the visits here have the shorter paths
      intro names hmem other hother hsame
      obtain ⟨v, hv, rfl⟩ := List.mem_map.mp hmem
      obtain ⟨e, -, rfl⟩ := List.mem_map.mp hv
      obtain ⟨e', -, hother'⟩ := List.mem_flatMap.mp hother
      obtain ⟨w, hw, rfl⟩ := List.mem_map.mp hother'
      obtain ⟨name, rest, hpath⟩ := exists_of_mem_visitsThrough hw
      rw [ofEntry_eq, hpath] at hsame
      simp at hsame

end FileNode

/-- The visits of a walk are those of the root, in the order of names. -/
theorem Directory.perm_visits (root : Directory) (ignored : List String) :
    (root.visits ignored).Perm (FileNode.visitsInside ignored [] (.directory root)) := by
  have hsorted : (FileNode.directory root).sorted = .directory root.sorted := by
    rw [FileNode.sorted, sorted]
  rw [visits, ← hsorted]
  exact FileNode.perm_visitsInside_sorted ignored [] _

end PlainScan

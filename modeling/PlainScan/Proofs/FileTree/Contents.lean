import Mathlib.Data.List.Forall2
import PlainScan.Proofs.FileTree.Alike

namespace PlainScan

/-!
# What files hold

A walk does not look at what files hold.  If two trees differ in that alone, walks through both make
the same visits and come upon files at the same paths.

* `FileNode.AlikeUpTo` — the same lies at every path below two nodes, up to what files hold.
* `FileNode.AlikeUpTo.forall₂_entries` — the entries of such directories correspond, name by name.
* `FileNode.AlikeUpTo.forall₂_visitsInside` — so do the visits.
* `Directory.walk_of_alikeUpTo` — and the files that walks come upon.
-/

open PlainScan.Text (Bytes)

variable {R : Bytes → Bytes → Prop}

namespace FileNode

/-- Two nodes are of one kind, and if they are regular files, what they hold is related. -/
inductive Resembles (R : Bytes → Bytes → Prop) : FileNode → FileNode → Prop
  | file {content content' : Bytes} (h : R content content') :
      Resembles R (.file content) (.file content')
  | link (target target' : String) : Resembles R (.link target) (.link target')
  | directory (entries listed : Directory) : Resembles R (.directory entries) (.directory listed)

/-- Nodes that resemble each other lie at every path below two nodes, or none does at either. -/
def AlikeUpTo (R : Bytes → Bytes → Prop) (one other : FileNode) : Prop :=
  ∀ path, Option.Rel (Resembles R) (one.below? path) (other.below? path)

/-! ### One level -/

namespace AlikeUpTo

variable {one other : FileNode}

/-- The nodes themselves resemble each other. -/
theorem resembles (h : one.AlikeUpTo R other) : one.Resembles R other := by
  have hroot := h []
  rw [below?_nil, below?_nil] at hroot
  cases hroot with
  | some hnode => exact hnode

/-- In such directories a name stands for such nodes, or for none in both. -/
theorem get? {entries listed : Directory}
    (h : (FileNode.directory entries).AlikeUpTo R (.directory listed)) (name : String) :
    Option.Rel (AlikeUpTo R) (entries.get? name) (listed.get? name) :=
  rel_get? h name

/-- Regular files that hold what is related are alike. -/
theorem file {content content' : Bytes} (h : R content content') :
    (FileNode.file content).AlikeUpTo R (.file content') := by
  intro path
  cases path with
  | nil => exact .some (.file h)
  | cons name rest => exact .none

/-- Directories are alike if every name stands for nodes that are, or for none in both. -/
theorem of_get? {entries listed : Directory}
    (h : ∀ name, Option.Rel (AlikeUpTo R) (entries.get? name) (listed.get? name)) :
    (FileNode.directory entries).AlikeUpTo R (.directory listed) := by
  intro path
  cases path with
  | nil => exact .some (.directory entries listed)
  | cons name rest =>
    rw [below?_directory, below?_directory, Directory.lookup?_cons, Directory.lookup?_cons]
    have hget := h name
    generalize entries.get? name = here at hget ⊢
    generalize listed.get? name = there at hget ⊢
    cases hget with
    | none => exact .none
    | some halike => exact halike rest

/-- The same names are in both. -/
theorem mem_names_iff {entries listed : Directory}
    (h : (FileNode.directory entries).AlikeUpTo R (.directory listed)) (name : String) :
    name ∈ entries.map (·.1) ↔ name ∈ listed.map (·.1) := by
  have hnone : ∀ directory : Directory,
      name ∈ directory.map (·.1) ↔ directory.get? name ≠ none := by
    intro directory
    rw [Directory.get?, Ne, Option.map_eq_none_iff, List.find?_eq_none]
    simp
  rw [hnone, hnone]
  have hget := h.get? name
  generalize entries.get? name = here at hget
  generalize listed.get? name = there at hget
  cases hget <;> simp

/-- **Entries.** In the order of their names the entries of such directories correspond. -/
theorem forall₂_entries {entries listed : Directory} (hentries : (entries.map (·.1)).Nodup)
    (hlisted : (listed.map (·.1)).Nodup)
    (h : (FileNode.directory entries).AlikeUpTo R (.directory listed)) :
    List.Forall₂ (fun e f => (e ∈ entries ∧ f ∈ listed) ∧ e.1 = f.1 ∧ e.2.AlikeUpTo R f.2)
      (entries.mergeSort entryLe) (listed.mergeSort entryLe) := by
  -- sorted, the names are the same lists
  have hnames : (entries.mergeSort entryLe).map (·.1) = (listed.mergeSort entryLe).map (·.1) := by
    have hperm : (entries.map (·.1)).Perm (listed.map (·.1)) :=
      (List.perm_ext_iff_of_nodup hentries hlisted).mpr h.mem_names_iff
    have hsorted : ∀ directory : Directory, ((directory.mergeSort entryLe).map (·.1)).Pairwise
        fun a b => Text.isBefore b a = false := by
      intro directory
      refine List.pairwise_map.mpr ?_
      refine (List.pairwise_mergeSort entryLe_trans entryLe_total directory).imp fun hle => ?_
      rwa [entryLe, Bool.not_eq_true'] at hle
    refine List.Perm.eq_of_pairwise (fun a b _ _ hab hba => Text.eq_of_not_isBefore hab hba)
      (hsorted entries) (hsorted listed) ?_
    exact ((List.mergeSort_perm entries entryLe).map _).trans
      (hperm.trans ((List.mergeSort_perm listed entryLe).map _).symm)
  have hlength : (entries.mergeSort entryLe).length = (listed.mergeSort entryLe).length := by
    rw [← List.length_map (·.1), hnames, List.length_map]
  have hsame : List.Forall₂ (fun e f : String × FileNode => e.1 = f.1)
      (entries.mergeSort entryLe) (listed.mergeSort entryLe) := by
    have hequal : List.Forall₂ Eq ((entries.mergeSort entryLe).map (·.1))
        ((listed.mergeSort entryLe).map (·.1)) := by
      rw [hnames, List.forall₂_eq_eq_eq]
    exact List.forall₂_map_left_iff.mp (List.forall₂_map_right_iff.mp hequal)
  refine List.forall₂_iff_zip.mpr ⟨hlength, fun {e f} hzip => ?_⟩
  obtain ⟨he, hf⟩ := List.of_mem_zip hzip
  rw [List.mem_mergeSort] at he hf
  have hname : e.1 = f.1 := (List.forall₂_iff_zip.mp hsame).2 hzip
  refine ⟨⟨he, hf⟩, hname, ?_⟩
  -- and a name stands for nodes that are alike
  have hget := h.get? e.1
  rw [(Directory.mem_iff_get? hentries).mp he, hname,
    (Directory.mem_iff_get? hlisted).mp hf] at hget
  cases hget with
  | some halike => exact halike

end AlikeUpTo

end FileNode

/-! ### Visits -/

/-- Two visits lead to the same path, and if they are to regular files, what these hold is
    related. -/
def Visit.Resembles (R : Bytes → Bytes → Prop) (v w : Visit) : Prop :=
  v.path = w.path ∧ Option.Rel R v.content w.content

/-- Two files lie at the same path, and what they hold is related. -/
def WalkedFile.Resembles (R : Bytes → Bytes → Prop) (f g : WalkedFile) : Prop :=
  f.path = g.path ∧ R f.content g.content

/-- Visits that correspond come upon files that correspond. -/
theorem Visit.Resembles.file? {v w : Visit} (h : v.Resembles R w) :
    Option.Rel (WalkedFile.Resembles R) v.file? w.file? := by
  obtain ⟨path, content⟩ := v
  obtain ⟨path', content'⟩ := w
  obtain ⟨rfl, hcontent⟩ : path = path' ∧ Option.Rel R content content' := h
  cases hcontent with
  | none => exact .none
  | some hrelated => exact .some ⟨rfl, hrelated⟩

/-- The visits to two nodes of one kind correspond. -/
theorem FileNode.Resembles.ofEntry {one other : FileNode} (h : one.Resembles R other)
    (path : List String) (name : String) :
    (Visit.ofEntry path (name, one)).Resembles R (Visit.ofEntry path (name, other)) := by
  cases h with
  | file hrelated => exact ⟨rfl, .some hrelated⟩
  | link target target' => exact ⟨rfl, .none⟩
  | directory entries listed => exact ⟨rfl, .none⟩

/-- **Visits.** The visits inside nodes that are alike up to what files hold correspond, one by
    one. -/
theorem FileNode.AlikeUpTo.forall₂_visitsInside {one other : FileNode}
    (hone : one.Throughout NamesDiffer) (hother : other.Throughout NamesDiffer)
    (h : one.AlikeUpTo R other) (ignored path : List String) :
    List.Forall₂ (Visit.Resembles R) (visitsInside ignored path one.sorted)
      (visitsInside ignored path other.sorted) := by
  -- on the tree; the sorted entries of the two correspond by name
  induction one using byEntries generalizing other path with
  | file content =>
    cases h.resembles with
    | file _ =>
      rw [sorted, sorted, visitsInside_file, visitsInside_file]
      exact .nil
  | link target =>
    cases h.resembles with
    | link _ _ =>
      rw [sorted, sorted, visitsInside_link, visitsInside_link]
      exact .nil
  | directory entries ih =>
    cases h.resembles with
    | directory _ listed =>
      have hentries : (entries.map (·.1)).Nodup := hone [] _ (below?_nil _)
      have hlisted : (listed.map (·.1)).Nodup := hother [] _ (below?_nil _)
      have hsame := h.forall₂_entries hentries hlisted
      rw [sorted, sorted, mergeSort_sortedEntries, mergeSort_sortedEntries, sortedEntries_eq,
        sortedEntries_eq, visitsInside_directory, visitsInside_directory]
      refine List.rel_append ?_ ?_
      · rw [List.forall₂_map_left_iff, List.forall₂_map_left_iff, List.forall₂_map_right_iff,
          List.forall₂_map_right_iff]
        refine hsame.imp fun e f hentry => ?_
        obtain ⟨name, node⟩ := e
        obtain ⟨name', node'⟩ := f
        obtain ⟨-, rfl, halike⟩ := hentry
        rw [ofEntry_sorted, ofEntry_sorted]
        exact halike.resembles.ofEntry path name
      · rw [List.flatMap_map, List.flatMap_map]
        refine List.rel_flatMap hsame fun e f hentry => ?_
        obtain ⟨name, node⟩ := e
        obtain ⟨name', node'⟩ := f
        -- an entry is ignored by its name, or the induction goes on inside of it
        obtain ⟨⟨he, hf⟩, rfl, halike⟩ := hentry
        unfold visitsThrough
        split
        · exact .nil
        · exact ih _ he (Directory.throughout_of_mem hentries hone he)
            (Directory.throughout_of_mem hlisted hother hf) halike (path ++ [name])

/-- The clock does not tell them apart: of visits that correspond as many are in time. -/
theorem Deadline.forall₂_cut (d : Deadline) (number : Nat) {visits visits' : List Visit}
    (h : List.Forall₂ (Visit.Resembles R) visits visits') :
    List.Forall₂ (Visit.Resembles R) (d.cut number visits).1 (d.cut number visits').1
      ∧ (d.cut number visits).2 = (d.cut number visits').2 := by
  induction h generalizing number with
  | nil => exact ⟨.nil, rfl⟩
  | cons hvisit _ ih =>
    obtain ⟨hrest, hsame⟩ := ih (number + 1)
    cases hlate : d.isPast number with
    | true =>
      rw [cut_cons_of_late hlate, cut_cons_of_late hlate]
      exact ⟨.nil, rfl⟩
    | false =>
      rw [cut_cons hlate, cut_cons hlate]
      exact ⟨.cons hvisit hrest, hsame⟩

/-! ### Walks -/

/-- **Walks.** Walks through trees that are alike up to what files hold come upon files at the same
    paths, which hold what is related, and are cut alike. -/
theorem Directory.walk_of_alikeUpTo {one other : Directory}
    (hone : (FileNode.directory one).Throughout FileNode.NamesDiffer)
    (hother : (FileNode.directory other).Throughout FileNode.NamesDiffer)
    (h : (FileNode.directory one).AlikeUpTo R (.directory other)) (ignored : List String)
    (deadline : Deadline) :
    List.Forall₂ (WalkedFile.Resembles R) (one.walk ignored deadline).files
        (other.walk ignored deadline).files
      ∧ (one.walk ignored deadline).timedOut = (other.walk ignored deadline).timedOut := by
  have hvisits : List.Forall₂ (Visit.Resembles R) (one.visits ignored) (other.visits ignored) := by
    have hinside := h.forall₂_visitsInside hone hother ignored []
    rwa [FileNode.sorted, FileNode.sorted] at hinside
  obtain ⟨hcut, htime⟩ := deadline.forall₂_cut 1 hvisits
  rw [walk_eq, walk_eq]
  exact ⟨List.rel_filterMap (fun _ _ hvisit => hvisit.file?) hcut, htime⟩

end PlainScan

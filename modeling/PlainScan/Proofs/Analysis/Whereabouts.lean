import PlainScan.Analysis.Accessibility
import PlainScan.FileKind
import PlainScan.Proofs.FileTree.Stack
import PlainScan.Proofs.FileTree.Visits

namespace PlainScan

/-!
# Paths by way of the working area

A walk comes upon files at paths that lead by way of the working area.  What is done with a file
depends on its name, which is the same below the area, and what is said of it on its path relative
to the area, which consists of the names below.

* `Directory.exists_of_mem_files_walk` — where the files of a walk lie.
* `isScannedName_below`, `isPage_below` — what is done with a file.
* `WorkingArea.relative_below` — what is said of it.
-/

/-! ### Files of a walk -/

/-- A file of a walk is a regular file that is visited, whether the walk is cut or not. -/
theorem Directory.exists_of_mem_files_walk {root : Directory} {ignored : List String}
    {deadline : Deadline} {f : WalkedFile} (h : f ∈ (root.walk ignored deadline).files) :
    ∃ v ∈ FileNode.visitsInside ignored [] (.directory root), v.file? = some f := by
  rw [walk_eq] at h
  obtain ⟨v, hv, hfile⟩ := List.mem_filterMap.mp h
  refine ⟨v, ?_, hfile⟩
  rw [← (root.perm_visits ignored).mem_iff]
  exact (deadline.cut_fst_prefix 1 _).subset hv

/-- Its path is relative and not empty. -/
theorem Directory.path_of_mem_files_walk {root : Directory} {ignored : List String}
    {deadline : Deadline} {f : WalkedFile} (h : f ∈ (root.walk ignored deadline).files) :
    f.path.root = "" ∧ f.path.components ≠ [] := by
  obtain ⟨v, hv, hfile⟩ := exists_of_mem_files_walk h
  obtain ⟨bytes, -, rfl⟩ := Option.map_eq_some_iff.mp hfile
  obtain ⟨name, rest, hpath⟩ := FileNode.exists_of_mem_visitsInside hv
  refine ⟨rfl, ?_⟩
  show v.path ≠ []
  rw [hpath]
  exact List.cons_ne_nil _ _

/-! ### Names -/

namespace FilePath

/-- Below any path the last component is the same. -/
theorem name_below (p : FilePath) {q : FilePath} (h : q.components ≠ []) :
    (p.below q.components).name = q.name := by
  rw [name, name, below, List.getLast?_append_of_ne_nil _ h]

/-- What remains of a path below the one that it leads on from. -/
theorem relativeTo?_below (p : FilePath) (components : List String) :
    (p.below components).relativeTo? p = some ⟨"", components⟩ := by
  simp [relativeTo?, below]

end FilePath

/-- The name alone decides whether a file is searched for secrets. -/
theorem isScannedName_below (config : Config) (p : FilePath) {q : FilePath}
    (h : q.components ≠ []) :
    isScannedName config (p.below q.components) = isScannedName config q := by
  simp only [isScannedName, FilePath.lowerName, FilePath.lowerSuffix, FilePath.suffix,
    p.name_below h]

/-- The name alone decides whether a file is a page. -/
theorem Accessibility.isPage_below (p : FilePath) {q : FilePath} (h : q.components ≠ []) :
    isPage (p.below q.components) = isPage q := by
  simp only [isPage, FilePath.lowerSuffix, FilePath.suffix, p.name_below h]

/-! ### The area -/

namespace WorkingArea

variable {area : WorkingArea}

/-- By way of an area with an absolute path a file is known by the names below the area. -/
theorem relative_below (h : area.location.isAbsolute = true) (components : List String) :
    area.relative (area.location.below components) = ⟨"", components⟩ := by
  have habsolute : (area.location.below components).isAbsolute = true := h
  rw [relative, habsolute, FilePath.relativeTo?_below]
  rfl

/-- The walk through an area is the walk through its root. -/
theorem walk?_eq {root : Directory} (h : area.content = some root) (ignored : List String)
    (deadline : Deadline) :
    area.walk? ignored deadline
      = some ⟨(root.walk ignored deadline).files.map area.placed,
          (root.walk ignored deadline).timedOut⟩ := by
  rw [walk?, h]
  rfl

/-- A test that only looks at names takes the same files by way of the area. -/
theorem filter_placed (p : FilePath → Bool)
    (hp : ∀ q : FilePath, q.components ≠ [] → p (area.location.below q.components) = p q)
    {files : List WalkedFile} (hfiles : ∀ f ∈ files, f.path.components ≠ []) :
    (files.map area.placed).filter (fun f => p f.path)
      = (files.filter fun f => p f.path).map area.placed := by
  rw [List.filter_map]
  congr 1
  exact List.filter_congr fun f hf => hp f.path (hfiles f hf)

end WorkingArea

end PlainScan

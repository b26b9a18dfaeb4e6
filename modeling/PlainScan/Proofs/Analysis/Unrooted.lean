import PlainScan.Proofs.Analysis.Issues
import PlainScan.Proofs.Analysis.Whereabouts
import PlainScan.Proofs.FileTree.Names

namespace PlainScan

/-!
# The files that findings name

No finding names its file by an absolute path, whatever paths an analyzer meets.

* `WorkingArea.IsSound` — an area as a file system has it.
* `WorkingArea.relative_cases` — what is said of a path: its last components, or its name.
* `Analyzer.file_of_mem_run` — the file of a finding.
-/

/-! ### Areas -/

/-- An area as a file system has it: its path and its tree are made of names, and the names in a
    directory are different ones. -/
structure WorkingArea.IsSound (area : WorkingArea) : Prop where
  location : area.location.HasNames
  names : ∀ root, area.content = some root →
    (FileNode.directory root).Throughout FileNode.HasNames
  distinct : ∀ root, area.content = some root →
    (FileNode.directory root).Throughout FileNode.NamesDiffer

/-- A path that leads on by names is made of names. -/
theorem FilePath.HasNames.below {p : FilePath} (h : p.HasNames) {components : List String}
    (hnames : ∀ name ∈ components, IsFileName name) : (p.below components).HasNames := by
  intro component hcomponent
  rcases List.mem_append.mp hcomponent with hhere | hbelow
  · exact h component hhere
  · exact hnames component hbelow

namespace WorkingArea

variable {area : WorkingArea}

/-- The path of a file that a walk through the area comes upon is made of names. -/
theorem IsSound.hasNames_walk (hsound : area.IsSound) {ignored : List String}
    {deadline : Deadline} {walk : WalkResult} (hwalk : area.walk? ignored deadline = some walk)
    {f : WalkedFile} (hf : f ∈ walk.files) : f.path.HasNames := by
  obtain ⟨root, hroot, rfl⟩ := Option.map_eq_some_iff.mp hwalk
  obtain ⟨g, hg, rfl⟩ := List.mem_map.mp hf
  obtain ⟨v, hv, hfile⟩ := Directory.exists_of_mem_files_walk hg
  obtain ⟨bytes, -, rfl⟩ := Option.map_eq_some_iff.mp hfile
  -- what is visited lies in the tree, whose paths consist of names
  have hvisit : ⟨[] ++ v.path, v.content⟩
      ∈ FileNode.visitsInside ignored [] (.directory root) := hv
  obtain ⟨-, ⟨found, hfound, -⟩, -⟩ :=
    (FileNode.mem_visitsInside_iff (hsound.distinct root hroot)).mp hvisit
  exact hsound.location.below (FileNode.isFileName_of_below? (hsound.names root hroot) hfound)

/-- What is said of a path has no root.  It consists of the last components of the path, or of its
    name alone. -/
theorem relative_cases (area : WorkingArea) (path : FilePath) :
    (∃ n, area.relative path = ⟨"", path.components.drop n⟩)
      ∨ area.relative path = ⟨"", [path.name]⟩ := by
  have hrest : ∀ {base rest : FilePath}, path.relativeTo? base = some rest →
      ∃ n, rest = ⟨"", path.components.drop n⟩ := by
    intro base rest h
    unfold FilePath.relativeTo? at h
    split at h
    · exact ⟨_, (Option.some.inj h).symm⟩
    · cases h
  unfold relative
  split
  · next habsolute =>
    -- a path that is not absolute is left as it is
    rw [FilePath.isAbsolute, Bool.not_not, String.isEmpty_iff] at habsolute
    refine .inl ⟨0, ?_⟩
    rw [List.drop_zero, ← habsolute]
  · split
    · next hlocation => exact .inl (hrest hlocation)
    · next hresolved => exact .inl (hrest hresolved)
    · exact .inr rfl

/-- **No root.** What is said of a path of names does not start at a root, and neither does it when
    it has been written and read again. -/
theorem isAbsolute_parse_relative (area : WorkingArea) {path : FilePath} (h : path.HasNames) :
    (FilePath.parse (area.relative path).text).isAbsolute = false := by
  rcases area.relative_cases path with ⟨n, hrelative⟩ | hrelative
  · rw [hrelative]
    exact FilePath.isAbsolute_parse_text rfl fun name hname =>
      h name (List.mem_of_mem_drop hname)
  · rw [hrelative]
    cases hlast : path.components.getLast? with
    | none =>
      -- a bare root has no name
      rw [FilePath.name, hlast]
      decide
    | some name =>
      have hname : path.name = name := by rw [FilePath.name, hlast, Option.getD_some]
      refine FilePath.isAbsolute_parse_text rfl fun component hcomponent => ?_
      rw [List.mem_singleton.mp hcomponent, hname]
      exact h name (List.mem_of_getLast? hlast)

end WorkingArea

/-! ### All analyzers -/

/-- Every issue names a file, and by a path without a root. -/
theorem Analyzer.file_of_mem_issues {config : Config} {area : WorkingArea} (hsound : area.IsSound)
    {tools : Tools} {timeout : Number} {a : Analyzer} {f : RawFinding}
    (h : f ∈ a.issues config area tools timeout) :
    ∃ file, f.file = some file ∧ (FilePath.parse file).isAbsolute = false := by
  cases a with
  | lint =>
    obtain ⟨path, message, rfl⟩ := Lint.exists_of_mem_issues h
    exact ⟨_, rfl, area.isAbsolute_parse_relative (FilePath.hasNames_parse path)⟩
  | audit =>
    obtain ⟨package, word, via, entry, rfl⟩ := Audit.exists_of_mem_issues h
    exact ⟨Audit.manifest, rfl, by decide⟩
  | secrets =>
    obtain ⟨walk, hwalk, file, hfile, line, p, -, column, rfl⟩ := Secrets.exists_of_mem_issues h
    exact ⟨_, rfl, area.isAbsolute_parse_relative (hsound.hasNames_walk hwalk hfile)⟩
  | accessibility =>
    obtain ⟨walk, hwalk, file, hfile, hfinding⟩ := Accessibility.exists_of_mem_issues h
    have hfile' := area.isAbsolute_parse_relative (hsound.hasNames_walk hwalk hfile)
    rcases hfinding with ⟨check, -, m, rfl⟩ | ⟨skip, rfl⟩
    · exact ⟨_, rfl, hfile'⟩
    · exact ⟨_, rfl, hfile'⟩

/-- **No absolute paths.** No finding of any run names its file by an absolute path. -/
theorem Analyzer.file_of_mem_run {config : Config} {area : WorkingArea} (hsound : area.IsSound)
    {tools : Tools} {timeout : Number} {a : Analyzer} {f : RawFinding}
    (h : f ∈ (a.run config area tools timeout).findings) :
    ∃ file, f.file = some file ∧ (FilePath.parse file).isAbsolute = false := by
  rw [(a.run_keeps config area tools timeout).findings_eq] at h
  exact file_of_mem_issues hsound (mem_of_mem_firstById (List.mem_of_mem_take h))

end PlainScan

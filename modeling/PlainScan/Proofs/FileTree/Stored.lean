import PlainScan.Proofs.FileTree.Lookup

namespace PlainScan

/-!
# Files that have been stored

A file is stored in a tree where nothing is in its way.  Files that are not in each other's way can
be stored one after another, and in the end all of them are there, and no others.

* `Directory.Clear` — nothing is in the way of a file.
* `Directory.GetsFile` — what lies where once a file has been stored; `Directory.getsFile_place` —
  a file is stored where nothing is in its way.
* `Directory.Holds` — the regular files of a tree are the given ones; `Directory.Holds.place` — one
  more of them.
-/

open PlainScan.Text (Bytes)

namespace Directory

variable {entries content : Directory} {path : List String} {name : String}

/-! ### One file -/

/-- Nothing is in the way of a file: what lies above it is a directory, and none lies in its
    place. -/
structure Clear (entries : Directory) (path : List String) : Prop where
  above : ∀ q node, q <+: path → q ≠ path → entries.lookup? q = some node →
    ∃ inner, node = .directory inner
  place : ∀ inner, entries.lookup? path ≠ some (.directory inner)

/-- A tree differs from the one before by a file and the directories above it. -/
structure GetsFile (before after : Directory) (path : List String) (bytes : Bytes) : Prop where
  file : after.lookup? path = some (.file bytes)
  above : ∀ q, q <+: path → q ≠ path → ∃ inner, after.lookup? q = some (.directory inner)
  elsewhere : ∀ q, ¬ q <+: path → after.lookup? q = before.lookup? q

/-- Nothing is in a directory that is still to be made. -/
theorem lookup?_of_inside? {inner : Directory} (h : entries.inside? name = some inner)
    {rest : List String} (hrest : rest ≠ []) :
    entries.lookup? (name :: rest) = inner.lookup? rest := by
  unfold inside? at h
  rw [lookup?_cons]
  split at h
  · rename_i hget
    cases h
    rw [hget, Option.bind_none]
    cases rest with
    | nil => exact absurd rfl hrest
    | cons next more => simp [lookup?_cons, get?]
  · rename_i found hget
    cases h
    simp [hget]
  · cases h

/-- Above a file that can be stored there is a directory, or one can be made. -/
theorem Clear.exists_inside? {rest : List String} (h : entries.Clear (name :: rest))
    (hrest : rest ≠ []) : ∃ inner, entries.inside? name = some inner ∧ inner.Clear rest := by
  have hinside : ∃ inner, entries.inside? name = some inner := by
    unfold inside?
    cases hget : entries.get? name with
    | none => exact ⟨[], rfl⟩
    | some node =>
      have hprefix : [name] <+: name :: rest := by simp
      have hne : [name] ≠ name :: rest := by simpa using hrest.symm
      have hlookup : entries.lookup? [name] = some node := by simp [lookup?, hget]
      obtain ⟨inner, rfl⟩ := h.above [name] node hprefix hne hlookup
      exact ⟨inner, rfl⟩
  obtain ⟨inner, hinner⟩ := hinside
  refine ⟨inner, hinner, ?_, ?_⟩
  -- what is below the name is clear because it was clear from above
  · intro q node hq hne hlookup
    by_cases hnil : q = []
    · subst hnil
      rw [lookup?_nil] at hlookup
      exact ⟨inner, (Option.some.inj hlookup).symm⟩
    · rw [← lookup?_of_inside? hinner hnil] at hlookup
      refine h.above (name :: q) node ?_ ?_ hlookup
      · simpa using hq
      · simpa using hne
  · intro found hlookup
    rw [← lookup?_of_inside? hinner hrest] at hlookup
    exact h.place found hlookup

/-- A file given to a name under which there is no directory. -/
theorem getsFile_set (h : ∀ inner, entries.get? name ≠ some (.directory inner)) (bytes : Bytes) :
    GetsFile entries (set entries name (.file bytes)) [name] bytes := by
  constructor
  · simp [lookup?_set_cons]
  -- above the file there is only the directory itself
  · intro q hq hne
    cases q with
    | nil => exact ⟨_, rfl⟩
    | cons other more =>
      have hq' : other = name ∧ more = [] := by simpa using hq
      exact absurd (by rw [hq'.1, hq'.2]) hne
  · intro q hq
    cases q with
    | nil => exact absurd List.nil_prefix hq
    | cons other more =>
      rw [lookup?_set_cons]
      by_cases hother : name = other
      · -- nothing lies below a file, and nothing did before
        subst hother
        have hmore : more ≠ [] := by
          rintro rfl
          exact hq List.prefix_rfl
        have hbelow : ∀ node : FileNode, (∀ inner, node ≠ .directory inner) →
            node.below? more = none := by
          intro node hnode
          cases more with
          | nil => exact absurd rfl hmore
          | cons next rest =>
            cases node with
            | directory inner => exact absurd rfl (hnode inner)
            | file content => rfl
            | link target => rfl
        rw [if_pos rfl, hbelow _ (by simp), lookup?_cons]
        cases hget : entries.get? name with
        | none => rfl
        | some node =>
          have hnode : ∀ inner, node ≠ .directory inner := by
            rintro inner rfl
            exact h inner hget
          rw [Option.bind_some, hbelow node hnode]
      · rw [if_neg hother]

/-- A file stored in the directory of a name. -/
theorem GetsFile.set {inner after : Directory} (hinner : entries.inside? name = some inner)
    {rest : List String} {bytes : Bytes} (hrest : rest ≠ [])
    (h : GetsFile inner after rest bytes) :
    GetsFile entries (set entries name (.directory after)) (name :: rest) bytes := by
  constructor
  · simpa [lookup?_set_cons] using h.file
  · intro q hq hne
    cases q with
    | nil => exact ⟨_, rfl⟩
    | cons other more =>
      obtain ⟨rfl, hmore⟩ := List.cons_prefix_cons.mp hq
      have hne' : more ≠ rest := by
        rintro rfl
        exact hne rfl
      simpa [lookup?_set_cons] using h.above more hmore hne'
  · intro q hq
    cases q with
    | nil => exact absurd List.nil_prefix hq
    | cons other more =>
      rw [lookup?_set_cons]
      by_cases hother : name = other
      -- below the name it is as the directory says
      · subst hother
        have hmore : ¬ more <+: rest := fun hprefix => hq (List.cons_prefix_cons.mpr ⟨rfl, hprefix⟩)
        have hnil : more ≠ [] := by
          rintro rfl
          exact hmore List.nil_prefix
        rw [if_pos rfl, FileNode.below?_directory, h.elsewhere more hmore,
          lookup?_of_inside? hinner hnil]
      · rw [if_neg hother]

/-- **One file.** Where nothing is in its way a file is stored. -/
theorem getsFile_place {fits : String → Bool} (hclear : entries.Clear path) (hne : path ≠ [])
    (hfits : path.all fits = true) (bytes : Bytes) :
    (place fits entries path (.file bytes)).stored = true
      ∧ GetsFile entries (place fits entries path (.file bytes)).tree path bytes := by
  induction path generalizing entries with
  | nil => exact absurd rfl hne
  | cons name rest ih =>
    rw [List.all_cons, Bool.and_eq_true] at hfits
    by_cases hrest : rest = []
    -- the file itself, where there is no directory
    · subst hrest
      have hfree : ∀ inner, entries.get? name ≠ some (.directory inner) := hclear.place
      have hplace : place fits entries [name] (.file bytes)
          = ⟨set entries name (.file bytes), true⟩ := by
        simp only [place, hfits.1, Bool.not_true, Bool.false_eq_true, if_false]
        cases hget : entries.get? name with
        | none => rfl
        | some node =>
          cases node with
          | directory inner => exact absurd hget (hfree inner)
          | file content => rfl
          | link target => rfl
      rw [hplace]
      exact ⟨rfl, getsFile_set hfree bytes⟩
    · obtain ⟨inner, hinner, hclear'⟩ := hclear.exists_inside? hrest
      obtain ⟨hstored, hgets⟩ := ih hclear' hrest hfits.2
      rw [place_below hrest, if_pos hfits.1, hinner]
      exact ⟨hstored, hgets.set hinner hrest⟩

/-! ### Many files -/

/-- The regular files of a tree are the given ones, other nodes of it are only the directories
    above them, and in each directory names differ. -/
structure Holds (content : Directory) (files : List (List String × Bytes)) : Prop where
  file_iff : ∀ path bytes, content.lookup? path = some (.file bytes) ↔ (path, bytes) ∈ files
  above : ∀ path inner, content.lookup? path = some (.directory inner) →
    path = [] ∨ ∃ file ∈ files, path <+: file.1
  linkFree : (FileNode.directory content).LinkFree
  distinct : (FileNode.directory content).Throughout FileNode.NamesDiffer

/-- An empty directory holds no files. -/
theorem holds_nil : Holds [] [] where
  file_iff := by
    intro path bytes
    cases path with
    | nil => simp
    | cons name rest => simp [lookup?_cons, get?]
  above := by
    intro path inner
    cases path with
    | nil => simp
    | cons name rest => simp [lookup?_cons, get?]
  linkFree := linkFree_nil
  distinct := throughout_nil List.nodup_nil

/-- No file is in the way of another one unless one of them lies above the other or in its
    place. -/
theorem Holds.clear {files : List (List String × Bytes)} (h : content.Holds files)
    (hne : path ≠ []) (hapart : ∀ file ∈ files, ¬ file.1 <+: path ∧ ¬ path <+: file.1) :
    content.Clear path := by
  constructor
  · intro q node hq _ hlookup
    cases node with
    | directory inner => exact ⟨inner, rfl⟩
    | file bytes => exact absurd hq (hapart _ ((h.file_iff q bytes).mp hlookup)).1
    | link target =>
      rw [← FileNode.below?_directory] at hlookup
      exact absurd hlookup (h.linkFree q target)
  · intro inner hlookup
    rcases h.above path inner hlookup with hnil | ⟨file, hfile, hprefix⟩
    · exact hne hnil
    · exact (hapart file hfile).2 hprefix

/-- **One more file.** It is stored, and the others stay. -/
theorem Holds.place {files : List (List String × Bytes)} (h : content.Holds files)
    {fits : String → Bool} (hne : path ≠ []) (hfits : path.all fits = true)
    (hapart : ∀ file ∈ files, ¬ file.1 <+: path ∧ ¬ path <+: file.1) (bytes : Bytes) :
    (content.place fits path (.file bytes)).stored = true
      ∧ (content.place fits path (.file bytes)).tree.Holds (files ++ [(path, bytes)]) := by
  obtain ⟨hstored, hgets⟩ := getsFile_place (h.clear hne hapart) hne hfits bytes
  refine ⟨hstored, ?_, ?_, linkFree_place h.linkFree (FileNode.linkFree_file bytes),
    throughout_place List.nodup_nil (fun _ name node hnames => namesDiffer_set hnames name node)
      h.distinct (FileNode.throughout_file trivial)⟩
  · intro q other
    by_cases hq : q <+: path
    · -- above the new file there are only directories, so no old file either
      have hold : (q, other) ∉ files := fun hmem => (hapart _ hmem).1 hq
      by_cases hsame : q = path
      · subst hsame
        rw [hgets.file]
        simp [hold, eq_comm]
      · obtain ⟨inner, hinner⟩ := hgets.above q hq hsame
        rw [hinner]
        simp [hold, hsame]
    · have hsame : q ≠ path := by
        rintro rfl
        exact hq List.prefix_rfl
      rw [hgets.elsewhere q hq, h.file_iff]
      simp [hsame]
  -- a directory is above the new file or was there before
  · intro q inner hlookup
    by_cases hq : q <+: path
    · exact .inr ⟨(path, bytes), by simp, hq⟩
    · rw [hgets.elsewhere q hq] at hlookup
      rcases h.above q inner hlookup with hnil | ⟨file, hfile, hprefix⟩
      · exact .inl hnil
      · exact .inr ⟨file, List.mem_append_left _ hfile, hprefix⟩

end Directory

end PlainScan

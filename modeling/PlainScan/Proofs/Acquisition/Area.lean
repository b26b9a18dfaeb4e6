import PlainScan.Host
import PlainScan.Proofs.FileTree.Graft

namespace PlainScan

/-!
# The life of a working area

A working area is made under a name that is free, files are stored in it, and it is removed with
all it holds, as far as the machine can.

* `Host.withArea` — a machine with a working area of some content, beside what it had before.
* `Host.Removes` — the machine removes whatever it is asked to remove.
* `Host.Opens` — what it is to make an area; `Host.opens_of_openArea` — the areas that are made.
* `Host.Opens.exists_write` — to store a file in the area changes nothing but its content.
* `Host.Opens.closeArea_withArea` — of the area there is what its removal has left.
-/

open PlainScan.Text (Bytes)

namespace Host

/-- A machine with a working area of a name, in which there is some content. -/
def withArea (h : Host) (name : String) (content : Directory) : Host :=
  { h with files := h.files.graft h.temporary name (.directory content) }

/-- A machine from which a working area of some content has been removed: of the area it has what
    the removal has left. -/
def afterRemoval (h : Host) (location : FilePath) (name : String) (content : Directory) : Host :=
  match (h.removal location (some content)).left with
  | none => h
  | some left => h.withArea name left

/-- A machine removes every directory that it is asked to remove, whatever is in it. -/
def Removes (h : Host) : Prop := ∀ location entries, h.removal location entries = {}

theorem Removes.afterRemoval_eq {h : Host} (hremoves : h.Removes) (location : FilePath)
    (name : String) (content : Directory) : h.afterRemoval location name content = h := by
  rw [afterRemoval, hremoves]

/-- A working area can be made at a location: it has a name that is free. -/
structure Opens (h : Host) (location : FilePath) (name : String) : Prop where
  location_eq : location = h.locate name
  vacant : h.files.Vacant h.temporary name

/-! ### Making an area -/

/-- No given name is longer than the longest. -/
theorem length_le_longest {names : List String} {name : String} (h : name ∈ names) :
    name.length ≤ longest names := by
  have hmono : ∀ (names : List String) (n : Nat),
      n ≤ names.foldl (fun n name => max n name.length) n
        ∧ ∀ name ∈ names, name.length ≤ names.foldl (fun n name => max n name.length) n := by
    intro names
    induction names with
    | nil => simp
    | cons first rest ih =>
      intro n
      obtain ⟨hle, hall⟩ := ih (max n first.length)
      have hn : n ≤ max n first.length := Nat.le_max_left ..
      have hfirst : first.length ≤ max n first.length := Nat.le_max_right ..
      refine ⟨Nat.le_trans hn hle, ?_⟩
      rw [List.forall_mem_cons]
      exact ⟨Nat.le_trans hfirst hle, hall⟩
  exact (hmono names 0).2 name h

/-- A fresh name is none of those that are taken. -/
theorem freshName_notMem (taken : List String) : freshName taken ∉ taken := by
  intro hmem
  have hle := length_le_longest hmem
  have hlength : (freshName taken).length = areaMark.length + (longest taken + 1) := by
    simp [freshName, String.length_append]
  omega

theorem lookup?_of_directory? {h : Host} {path : List String} {entries : Directory}
    (hdirectory : h.directory? path = some entries) :
    h.files.lookup? path = some (.directory entries) := by
  unfold directory? at hdirectory
  split at hdirectory
  · rename_i found hfound
    rw [hfound, Option.some.inj hdirectory]
  · cases hdirectory

/-- **Making.** The area is empty, and it has a name that was free. -/
theorem opens_of_openArea {h opened : Host} {location : FilePath}
    (hopen : h.openArea = some (location, opened)) :
    ∃ name, h.Opens location name ∧ opened = h.withArea name [] := by
  unfold openArea at hopen
  split at hopen
  · cases hopen
  · rename_i entries hentries
    cases hopen
    have hfresh : entries.get? (freshName (entries.map (·.1))) = none := by
      rw [Directory.get?, Option.map_eq_none_iff, List.find?_eq_none]
      intro e he htaken
      refine freshName_notMem (entries.map (·.1)) ?_
      rw [← beq_iff_eq.mp htaken]
      exact List.mem_map_of_mem he
    have hvacant := Directory.vacant_of_lookup? (lookup?_of_directory? hentries) hfresh
    refine ⟨_, ⟨rfl, hvacant⟩, ?_⟩
    simp only [withArea, locate, hvacant.place_eq_graft]

namespace Opens

variable {h : Host} {location : FilePath} {name : String}

theorem components_eq (ho : h.Opens location name) :
    location.components = h.temporary ++ [name] := by
  rw [ho.location_eq, locate]

theorem root_eq (ho : h.Opens location name) : location.root = "/" := by
  rw [ho.location_eq, locate]

/-- Where the area is to be made there is nothing yet. -/
theorem lookup?_eq_none (ho : h.Opens location name) :
    h.files.lookup? location.components = none := by
  rw [ho.components_eq]
  exact ho.vacant.lookup?_eq_none []

/-- What lies in the area. -/
theorem lookup?_withArea (ho : h.Opens location name) (content : Directory) (rest : List String) :
    (h.withArea name content).files.lookup? (location.components ++ rest)
      = content.lookup? rest := by
  rw [ho.components_eq, List.append_assoc, List.singleton_append, withArea,
    ho.vacant.lookup?_graft, FileNode.below?_directory]

/-- The content of the area. -/
theorem directory?_withArea (ho : h.Opens location name) (content : Directory) :
    (h.withArea name content).directory? location.components = some content := by
  have hlookup := ho.lookup?_withArea content []
  rw [List.append_nil, Directory.lookup?_nil] at hlookup
  simp only [directory?, hlookup]

/-- Without the area the machine is what it was. -/
theorem remove_withArea (ho : h.Opens location name) (content : Directory) :
    (h.withArea name content).files.remove location.components = h.files := by
  rw [ho.components_eq, withArea, ho.vacant.remove_graft]

/-- **Removal.** Of the area there is what the machine cannot remove, and it breaks where the
    machine says so. -/
theorem closeArea_withArea (ho : h.Opens location name) (content : Directory) :
    (h.withArea name content).closeArea location
      = (h.afterRemoval location name content, (h.removal location (some content)).breaks) := by
  have hremoval : (h.withArea name content).removal = h.removal := rfl
  simp only [closeArea, ho.directory?_withArea, ho.remove_withArea, hremoval, afterRemoval]
  cases (h.removal location (some content)).left with
  | none => rfl
  | some left => simp only [ho.components_eq, ho.vacant.place_eq_graft, withArea]

/-- **Paths.** An area without links leaves it open to no path to lead elsewhere than before. -/
theorem resolve?_withArea (ho : h.Opens location name) {content : Directory}
    (hfree : (FileNode.directory content).LinkFree) (base path : FilePath) :
    (h.withArea name content).files.resolve? base path = h.files.resolve? base path :=
  Directory.resolve?_congr (ho.vacant.linkAt?_graft hfree) base path

/-! ### Storing in the area -/

/-- To make a directory in the area, or one that has to be there for the area to be there. -/
theorem exists_makeDirectory (ho : h.Opens location name) {content : Directory}
    (hfree : (FileNode.directory content).LinkFree) (rest : List String) :
    ∃ content', (FileNode.directory content').LinkFree ∧
      (h.withArea name content).makeDirectory
        (FilePath.parent ⟨"/", location.components ++ rest⟩) = h.withArea name content' := by
  have hsame : ∀ path found, (h.withArea name content).files.lookup? path
      = some (.directory found) →
      (h.withArea name content).makeDirectory ⟨"/", path⟩ = h.withArea name content := by
    intro path found hfound
    unfold makeDirectory
    split
    · rw [Directory.place_directory_of_lookup? Directory.fits hfound]
    · rfl
  by_cases hrest : rest.dropLast = []
  · refine ⟨content, hfree, ?_⟩
    cases rest with
    | nil =>
      -- the directory in which areas are made
      obtain ⟨found, hfound⟩ := ho.vacant.exists_lookup?_graft (.directory content)
      rw [FilePath.parent, List.append_nil, ho.components_eq, List.dropLast_concat]
      exact hsame _ found hfound
    | cons first more =>
      -- the area itself
      obtain rfl : more = [] := by
        cases more with
        | nil => rfl
        | cons second others => simp at hrest
      rw [FilePath.parent, List.dropLast_concat]
      have hlookup := ho.lookup?_withArea content []
      rw [List.append_nil, Directory.lookup?_nil] at hlookup
      exact hsame _ content hlookup
  · have hparent : (FilePath.parent ⟨"/", location.components ++ rest⟩).components
        = h.temporary ++ name :: rest.dropLast := by
      have hne : rest ≠ [] := by
        rintro rfl
        exact hrest rfl
      show (location.components ++ rest).dropLast = _
      rw [List.dropLast_append_of_ne_nil hne, ho.components_eq, List.append_assoc,
        List.singleton_append]
    unfold makeDirectory
    split
    · simp only [withArea, hparent, ho.vacant.place_graft _ _ hrest]
      split
      · exact ⟨_, Directory.linkFree_place hfree Directory.linkFree_nil, rfl⟩
      · exact ⟨content, hfree, rfl⟩
    · exact ⟨content, hfree, rfl⟩

/-- A file that can be stored at all is stored in the content of the area. -/
theorem write_withArea (ho : h.Opens location name) (content : Directory) {rest : List String}
    (hrest : rest ≠ []) (bytes : Bytes) (hreaches : reaches ⟨"/", location.components ++ rest⟩)
    (hfits : location.components.all Directory.fits = true) :
    (h.withArea name content).write ⟨"/", location.components ++ rest⟩ bytes
      = (h.withArea name (content.place Directory.fits rest (.file bytes)).tree,
          (content.place Directory.fits rest (.file bytes)).stored) := by
  rw [ho.components_eq] at hfits
  have hplace := ho.vacant.place_graft Directory.fits content hrest (.file bytes)
  rw [if_pos hfits] at hplace
  simp only [write, if_pos hreaches]
  rw [ho.components_eq, List.append_assoc, List.singleton_append]
  simp only [withArea, hplace]

/-- **Storing.** Whatever comes of it, to store a file in the area or in its place changes nothing
    but the content of the area, in which no link comes into being. -/
theorem exists_write (ho : h.Opens location name) {content : Directory}
    (hfree : (FileNode.directory content).LinkFree) (rest : List String) (bytes : Bytes) :
    ∃ content', (FileNode.directory content').LinkFree ∧
      ((h.withArea name content).write ⟨"/", location.components ++ rest⟩ bytes).1
        = h.withArea name content' := by
  unfold write
  split
  · rw [ho.components_eq, List.append_assoc, List.singleton_append]
    by_cases hrest : rest = []
    · subst hrest
      refine ⟨content, hfree, ?_⟩
      simp only [withArea, ho.vacant.place_file_graft]
    · simp only [withArea, ho.vacant.place_graft _ _ hrest]
      split
      · exact ⟨_, Directory.linkFree_place hfree (FileNode.linkFree_file bytes), rfl⟩
      · exact ⟨content, hfree, rfl⟩
  · exact ho.exists_makeDirectory hfree rest

end Opens

end Host

end PlainScan

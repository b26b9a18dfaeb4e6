import PlainScan.Proofs.FileTree.Lookup

namespace PlainScan

/-!
# A node under a name of its own

A directory of a tree gets one more name.  What is done at and below that name shows nowhere else,
and without the name the tree is what it was.

* `Directory.Vacant` — a name that is free in a directory of a tree.
* `Directory.graft` — the tree with a node under that name.
* `Directory.place_graft` — to store a node below the name is to store it in the directory there.
* `Directory.remove_graft` — the name taken away again.
* `Directory.linkAt?_graft`, `Directory.realPath_congr` — paths lead where they led before.
-/

open PlainScan.Text (Bytes)

namespace Directory

/-- A name is free in the directory at a path. -/
inductive Vacant : Directory → List String → String → Prop where
  | here {entries : Directory} {name : String} (h : entries.get? name = none) :
      Vacant entries [] name
  | there {entries inner : Directory} {first name : String} {rest : List String}
      (h : entries.get? first = some (.directory inner)) (hrest : Vacant inner rest name) :
      Vacant entries (first :: rest) name

/-- A tree with a node under a name of the directory at a path. -/
def graft (entries : Directory) (path : List String) (name : String) (node : FileNode) :
    Directory :=
  match path with
  | [] => set entries name node
  | first :: rest =>
    match entries.get? first with
    | some (.directory inner) => set entries first (.directory (graft inner rest name node))
    | _ => entries

variable {entries inner : Directory} {path : List String} {name first : String}

theorem graft_cons (h : entries.get? first = some (.directory inner)) (rest : List String)
    (name : String) (node : FileNode) :
    graft entries (first :: rest) name node
      = set entries first (.directory (graft inner rest name node)) := by
  rw [graft, h]

theorem get?_graft_cons (h : entries.get? first = some (.directory inner)) (rest : List String)
    (name : String) (node : FileNode) :
    (graft entries (first :: rest) name node).get? first
      = some (.directory (graft inner rest name node)) := by
  rw [graft_cons h, get?_set, if_pos rfl]

/-- A name that a directory does not have is free. -/
theorem vacant_of_lookup? (hpath : entries.lookup? path = some (.directory inner))
    (hname : inner.get? name = none) : Vacant entries path name := by
  induction path generalizing entries with
  | nil =>
    rw [lookup?_nil, Option.some.injEq, FileNode.directory.injEq] at hpath
    subst hpath
    exact .here hname
  | cons first rest ih =>
    obtain ⟨found, hget, hrest⟩ := exists_get?_of_lookup? hpath
    exact .there hget (ih hrest)

namespace Vacant

/-! ### What lies where -/

/-- Nothing lies at or below a name that is free. -/
theorem lookup?_eq_none (h : Vacant entries path name) (rest : List String) :
    entries.lookup? (path ++ name :: rest) = none := by
  induction h with
  | here h => simp [lookup?_cons, h]
  | there h _ ih => simp [lookup?_cons, h, ih]

/-- Under the name lies the node. -/
theorem lookup?_graft (h : Vacant entries path name) (node : FileNode) (rest : List String) :
    (graft entries path name node).lookup? (path ++ name :: rest) = node.below? rest := by
  induction h with
  | here h => simp [graft, lookup?_set_cons]
  | there h _ ih => simp [lookup?_cons, get?_graft_cons h, ih]

/-- The directory is still there. -/
theorem exists_lookup?_graft (h : Vacant entries path name) (node : FileNode) :
    ∃ found, (graft entries path name node).lookup? path = some (.directory found) := by
  induction h with
  | here h => exact ⟨_, rfl⟩
  | there h _ ih =>
    obtain ⟨found, hfound⟩ := ih
    exact ⟨found, by simp [lookup?_cons, get?_graft_cons h, hfound]⟩

/-- **Links.** A node without links leaves every link where it was. -/
theorem linkAt?_graft (h : Vacant entries path name) {node : FileNode} (hnode : node.LinkFree)
    (names : List String) :
    (graft entries path name node).linkAt? names = entries.linkAt? names := by
  induction h generalizing names with
  | @here entries name h =>
    cases names with
    | nil => rfl
    | cons other rest =>
      simp only [linkAt?, graft, lookup?_set_cons]
      by_cases hother : name = other
      · -- there was nothing under the name, and now there is no link
        subst hother
        have hnone : entries.lookup? (name :: rest) = none := by simp [lookup?_cons, h]
        rw [if_pos rfl, hnone]
        split
        · rename_i target hlink
          exact absurd hlink (hnode rest target)
        · rfl
      · rw [if_neg hother]
  | @there entries inner first name path h hrest ih =>
    cases names with
    | nil => rfl
    | cons other rest =>
      simp only [linkAt?, graft_cons h, lookup?_set_cons]
      by_cases hother : first = other
      -- the names go on into the directory where the node is put
      · subst hother
        have hbelow : entries.lookup? (first :: rest) = inner.lookup? rest := by
          simp [lookup?_cons, h]
        rw [if_pos rfl, hbelow, FileNode.below?_directory]
        exact ih rest
      · rw [if_neg hother]

/-! ### Storing and removing -/

/-- A node is stored under the name. -/
theorem place_eq_graft (h : Vacant entries path name) (node : FileNode) :
    (place (fun _ => true) entries (path ++ [name]) node).tree = graft entries path name node := by
  induction h with
  | here h => simp [place, h, graft]
  | there h _ ih =>
    rw [List.cons_append, place_below (by simp), if_pos rfl, graft_cons h]
    simp only [inside?, h, ih]

/-- Of two nodes under the name the second counts. -/
theorem graft_graft (h : Vacant entries path name) (first second : FileNode) :
    graft (graft entries path name first) path name second = graft entries path name second := by
  induction h with
  | here h => simp [graft, set_set]
  | there h _ ih =>
    rw [graft_cons (get?_graft_cons h _ _ first), ih, graft_cons h, graft_cons h, set_set]

/-- **Storing.** To store a node below the name is to store it in the directory there, unless a
    name above it does not fit. -/
theorem place_graft (h : Vacant entries path name) (fits : String → Bool) (content : Directory)
    {rest : List String} (hrest : rest ≠ []) (node : FileNode) :
    place fits (graft entries path name (.directory content)) (path ++ name :: rest) node =
      if (path ++ [name]).all fits then
        ⟨graft entries path name (.directory (place fits content rest node).tree),
          (place fits content rest node).stored⟩
      else ⟨graft entries path name (.directory content), false⟩ := by
  induction h with
  | @here entries name h =>
    have hget : (graft entries [] name (.directory content)).inside? name = some content := by
      simp [inside?, graft, get?_set]
    rw [List.nil_append, place_below hrest, hget]
    cases hfits : fits name <;> simp [hfits, graft, set_set]
  | @there entries inner first name path h _ ih =>
    have hget : (graft entries (first :: path) name (.directory content)).inside? first
        = some (graft inner path name (.directory content)) := by
      simp [inside?, get?_graft_cons h]
    rw [List.cons_append, place_below (by simp), hget, List.cons_append, List.all_cons]
    by_cases hfits : fits first = true
    · by_cases hall : (path ++ [name]).all fits = true
      · simp only [hfits, hall, ih, Bool.and_self, if_true, graft_cons h, set_set]
      · simp only [hfits, hall, ih, Bool.true_and, if_true, if_false,
          set_of_get? (get?_graft_cons h path name (.directory content)), Bool.false_eq_true]
    · simp [hfits]

/-- A file cannot be stored in the place of the directory. -/
theorem place_file_graft (h : Vacant entries path name) (fits : String → Bool)
    (content : Directory) (bytes : Bytes) :
    place fits (graft entries path name (.directory content)) (path ++ [name]) (.file bytes)
      = ⟨graft entries path name (.directory content), false⟩ := by
  induction h with
  | here h =>
    simp only [List.nil_append, place, graft, get?_set, if_true]
    split <;> rfl
  | @there entries inner first name path h _ ih =>
    have hget : (graft entries (first :: path) name (.directory content)).inside? first
        = some (graft inner path name (.directory content)) := by
      simp [inside?, get?_graft_cons h]
    rw [List.cons_append, place_below (by simp), hget]
    cases hfits : fits first with
    | false => simp
    | true => simp [ih, graft_cons h, set_set]

/-- **Removal.** Without the name the tree is what it was. -/
theorem remove_graft (h : Vacant entries path name) (node : FileNode) :
    remove (graft entries path name node) (path ++ [name]) = entries := by
  induction h with
  | @here entries name h =>
    rw [List.nil_append, remove, graft, set_of_get?_eq_none h, List.filter_append,
      filter_of_get?_eq_none h]
    simp
  | @there entries inner first name path h _ ih =>
    have hremove : ∀ {rest : List String}, rest ≠ [] → ∀ tree : Directory,
        tree.get? first = some (.directory (graft inner path name node)) →
          remove tree (first :: rest)
            = set tree first (.directory (remove (graft inner path name node) rest)) := by
      intro rest hrest tree htree
      cases rest with
      | nil => exact absurd rfl hrest
      | cons next more => simp only [remove, htree]
    rw [List.cons_append, hremove (by simp) _ (get?_graft_cons h path name node), ih, graft_cons h,
      set_set, set_of_get? h]

end Vacant

/-! ### Directories that are there -/

/-- To make a directory that is there changes nothing. -/
theorem place_directory_of_lookup? (fits : String → Bool)
    (h : entries.lookup? path = some (.directory inner)) :
    (place fits entries path (.directory [])).tree = entries := by
  induction path generalizing entries with
  | nil => rfl
  | cons first rest ih =>
    obtain ⟨found, hget, hfound⟩ := exists_get?_of_lookup? h
    by_cases hrest : rest = []
    · subst hrest
      simp only [place, hget]
      split <;> rfl
    · rw [place_below hrest]
      simp only [inside?, hget, ih hfound, set_of_get? hget]
      split <;> rfl

/-! ### Where paths lead -/

/-- Only links decide where a path leads. -/
theorem realPath_congr {one other : Directory}
    (h : ∀ names, one.linkAt? names = other.linkAt? names) (depth : Nat) :
    one.realPath depth = other.realPath depth := by
  have hstride : one.stride = other.stride := by
    funext through here component
    simp only [stride, h]
  induction depth with
  | zero =>
    funext here path
    simp only [realPath, hstride]
  | succ depth ih =>
    funext here path
    simp only [realPath, hstride, ih]

theorem resolve?_congr {one other : Directory}
    (h : ∀ names, one.linkAt? names = other.linkAt? names) (base path : FilePath) :
    one.resolve? base path = other.resolve? base path := by
  simp only [resolve?, realPath_congr h]

end Directory

end PlainScan

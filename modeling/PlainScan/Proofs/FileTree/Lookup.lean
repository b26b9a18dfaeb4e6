import PlainScan.FileTree.RealPath

namespace PlainScan

/-!
# What lies where in a tree

What the operations on directories do, told by what lies at each path afterwards.

* `FileNode.below?` — what lies at a path below a node; `Directory.lookup?_cons` — a path starts
  with a name in the directory.
* `Directory.set_set`, `Directory.lookup?_set_cons` — a name that is given a node.
* `FileNode.Throughout` — what holds of a node and of all below it; `FileNode.LinkFree` — that none
  of it is a link.
* `Directory.place_below` — how a node is stored further down; `Directory.throughout_place` — what
  holds throughout a tree that way.
-/

open PlainScan.Text (Bytes)

/-! ### Below a node -/

/-- What lies at a path of names below a node. -/
def FileNode.below? : FileNode → List String → Option FileNode
  | node, [] => some node
  | .directory entries, name :: rest => Directory.lookup? entries (name :: rest)
  | _, _ :: _ => none

@[simp] theorem FileNode.below?_nil (node : FileNode) : node.below? [] = some node := by
  cases node <;> rfl

@[simp] theorem FileNode.below?_directory (entries : Directory) (path : List String) :
    (FileNode.directory entries).below? path = entries.lookup? path := by
  cases path <;> rfl

namespace Directory

variable {entries : Directory}

@[simp] theorem lookup?_nil (entries : Directory) :
    entries.lookup? [] = some (.directory entries) := rfl

/-- A path starts with a name in the directory. -/
theorem lookup?_cons (entries : Directory) (name : String) (rest : List String) :
    entries.lookup? (name :: rest) = (entries.get? name).bind fun node => node.below? rest := by
  cases rest with
  | nil => cases h : entries.get? name <;> simp [lookup?, h]
  | cons next more =>
    simp only [lookup?]
    cases h : entries.get? name with
    | none => rfl
    | some node => cases node <;> rfl

/-- Above a directory there are directories. -/
theorem exists_get?_of_lookup? {inner : Directory} {first : String} {rest : List String}
    (h : entries.lookup? (first :: rest) = some (.directory inner)) :
    ∃ found : Directory, entries.get? first = some (.directory found)
      ∧ found.lookup? rest = some (.directory inner) := by
  rw [lookup?_cons] at h
  cases hget : entries.get? first with
  | none => simp [hget] at h
  | some node =>
    rw [hget, Option.bind_some] at h
    cases node with
    | directory found =>
      rw [FileNode.below?_directory] at h
      exact ⟨found, rfl, h⟩
    | file content => cases rest <;> simp [FileNode.below?] at h
    | link target => cases rest <;> simp [FileNode.below?] at h

/-! ### Single names -/

theorem get?_cons (name other : String) (node : FileNode) (rest : Directory) :
    get? ((other, node) :: rest) name = if other = name then some node else get? rest name := by
  by_cases h : other = name
  · simp [get?, h]
  · simp [get?, h]

theorem get?_set (entries : Directory) (name other : String) (node : FileNode) :
    get? (set entries name node) other
      = if name = other then some node else get? entries other := by
  induction entries with
  | nil => simp [set, get?_cons]
  | cons e rest ih =>
    obtain ⟨n, old⟩ := e
    by_cases hn : n = name
    · subst hn
      by_cases ho : n = other <;> simp [set, get?_cons, ho]
    · simp only [set, beq_iff_eq, hn, if_false, get?_cons, ih]
      by_cases ho : n = other
      · subst ho
        simp [Ne.symm hn]
      · simp [ho]

/-- Where names differ an entry is what is found under its name. -/
theorem mem_iff_get? (h : (entries.map (·.1)).Nodup) {name : String}
    {node : FileNode} : (name, node) ∈ entries ↔ entries.get? name = some node := by
  induction entries with
  | nil => simp [get?]
  | cons e rest ih =>
    obtain ⟨other, first⟩ := e
    rw [List.map_cons, List.nodup_cons] at h
    have hrest := ih h.2
    rw [get?_cons, List.mem_cons, Prod.mk.injEq, hrest]
    by_cases hname : other = name
    · -- the name does not occur again
      subst hname
      have hnone : get? rest other ≠ some node := fun hget =>
        h.1 (List.mem_map.mpr ⟨(other, node), hrest.mpr hget, rfl⟩)
      simp [hnone, eq_comm]
    · simp [hname, Ne.symm hname]

/-- What is given the node that it has stays as it is. -/
theorem set_of_get? {name : String} {node : FileNode} (h : entries.get? name = some node) :
    set entries name node = entries := by
  induction entries with
  | nil => simp [get?] at h
  | cons e rest ih =>
    obtain ⟨n, old⟩ := e
    rw [get?_cons] at h
    by_cases hn : n = name
    · rw [if_pos hn, Option.some.injEq] at h
      simp [set, hn, h]
    · rw [if_neg hn] at h
      simp [set, hn, ih h]

/-- Of two nodes for one name the second counts. -/
theorem set_set (entries : Directory) (name : String) (first second : FileNode) :
    set (set entries name first) name second = set entries name second := by
  induction entries with
  | nil => simp [set]
  | cons e rest ih =>
    obtain ⟨n, old⟩ := e
    by_cases hn : n = name
    · simp [set, hn]
    · simp [set, hn, ih]

/-- A name that is not there yet comes at the end. -/
theorem set_of_get?_eq_none {name : String} (h : entries.get? name = none) (node : FileNode) :
    set entries name node = entries ++ [(name, node)] := by
  induction entries with
  | nil => rfl
  | cons e rest ih =>
    obtain ⟨n, old⟩ := e
    rw [get?_cons] at h
    by_cases hn : n = name
    · simp [hn] at h
    · rw [if_neg hn] at h
      simp [set, hn, ih h]

/-- Without a name that is not there a directory stays as it is. -/
theorem filter_of_get?_eq_none {name : String} (h : entries.get? name = none) :
    (entries.filter fun e => e.1 != name) = entries := by
  rw [List.filter_eq_self]
  intro e he
  have hfind : (entries.find? fun e => e.1 == name) = none := Option.map_eq_none_iff.mp h
  have hne := List.find?_eq_none.mp hfind e he
  simpa using hne

/-- What lies at a path after a name has been given a node. -/
theorem lookup?_set_cons (entries : Directory) (name : String) (node : FileNode) (other : String)
    (rest : List String) :
    (set entries name node).lookup? (other :: rest)
      = if name = other then node.below? rest else entries.lookup? (other :: rest) := by
  rw [lookup?_cons, lookup?_cons, get?_set]
  by_cases h : name = other <;> simp [h]

end Directory

/-! ### Throughout a node -/

/-- Something holds of a node and of all that lies below it. -/
def FileNode.Throughout (P : FileNode → Prop) (node : FileNode) : Prop :=
  ∀ path found, node.below? path = some found → P found

/-- Neither a node nor anything below it is a link. -/
def FileNode.LinkFree (node : FileNode) : Prop :=
  ∀ path target, node.below? path ≠ some (.link target)

/-- The entries of a directory have names of their own. -/
def FileNode.NamesDiffer : FileNode → Prop
  | .directory entries => (entries.map (·.1)).Nodup
  | _ => True

namespace FileNode

theorem linkFree_iff {node : FileNode} :
    node.LinkFree ↔ node.Throughout fun found => ∀ target, found ≠ .link target := by
  constructor
  · rintro h path _ hfound target rfl
    exact h path target hfound
  · intro h path target hfound
    exact h path _ hfound target rfl

theorem throughout_file {P : FileNode → Prop} {content : Bytes} (h : P (.file content)) :
    (FileNode.file content).Throughout P := by
  intro path found hfound
  cases path with
  | nil =>
    cases hfound
    exact h
  | cons name rest => cases hfound

theorem throughout_link {P : FileNode → Prop} {target : String} (h : P (.link target)) :
    (FileNode.link target).Throughout P := by
  intro path found hfound
  cases path with
  | nil =>
    cases hfound
    exact h
  | cons name rest => cases hfound

theorem linkFree_file (content : Bytes) : (FileNode.file content).LinkFree :=
  linkFree_iff.mpr (throughout_file fun _ => by simp)

end FileNode

namespace Directory

variable {entries : Directory} {P : FileNode → Prop}

theorem throughout_nil (h : P (.directory [])) : (FileNode.directory []).Throughout P := by
  intro path found hfound
  cases path with
  | nil =>
    cases hfound
    exact h
  | cons name rest => simp [lookup?_cons, get?] at hfound

theorem throughout_of_get? {name : String} {node : FileNode}
    (hall : (FileNode.directory entries).Throughout P) (h : entries.get? name = some node) :
    node.Throughout P := by
  intro path found hfound
  refine hall (name :: path) found ?_
  rwa [FileNode.below?_directory, lookup?_cons, h, Option.bind_some]

/-- What holds throughout a directory whose names differ holds throughout its entries. -/
theorem throughout_of_mem (hnames : (entries.map (·.1)).Nodup)
    (hall : (FileNode.directory entries).Throughout P) {e : String × FileNode} (he : e ∈ entries) :
    e.2.Throughout P :=
  throughout_of_get? hall ((mem_iff_get? hnames).mp he)

/-- What holds of a directory and throughout its entries holds throughout. -/
theorem throughout_of_entries (hroot : P (.directory entries))
    (hentries : ∀ e ∈ entries, e.2.Throughout P) : (FileNode.directory entries).Throughout P := by
  intro path found hfound
  cases path with
  | nil =>
    cases hfound
    exact hroot
  | cons name rest =>
    rw [FileNode.below?_directory, lookup?_cons, Option.bind_eq_some_iff] at hfound
    obtain ⟨node, hget, hbelow⟩ := hfound
    obtain ⟨e, he, rfl⟩ := Option.map_eq_some_iff.mp hget
    exact hentries e (List.mem_of_find?_eq_some he) rest found hbelow

theorem throughout_set {name : String} {node : FileNode}
    (hall : (FileNode.directory entries).Throughout P) (hnode : node.Throughout P)
    (hset : P (.directory (set entries name node))) :
    (FileNode.directory (set entries name node)).Throughout P := by
  intro path found hfound
  cases path with
  | nil =>
    cases hfound
    exact hset
  | cons other rest =>
    rw [FileNode.below?_directory, lookup?_set_cons] at hfound
    by_cases h : name = other
    · rw [if_pos h] at hfound
      exact hnode rest found hfound
    · rw [if_neg h, ← FileNode.below?_directory] at hfound
      exact hall (other :: rest) found hfound

theorem linkFree_nil : (FileNode.directory []).LinkFree :=
  FileNode.linkFree_iff.mpr (throughout_nil fun _ => by simp)

/-- A name that is given a node is new or is there already. -/
theorem map_fst_set (entries : Directory) (name : String) (node : FileNode) :
    (set entries name node).map (·.1)
      = if name ∈ entries.map (·.1) then entries.map (·.1)
        else entries.map (·.1) ++ [name] := by
  induction entries with
  | nil => rfl
  | cons e rest ih =>
    obtain ⟨n, old⟩ := e
    by_cases hn : n = name
    · simp [set, hn]
    · simp only [set, beq_iff_eq, hn, if_false, List.map_cons, ih, List.mem_cons, Ne.symm hn,
        false_or]
      split <;> rfl

theorem namesDiffer_set (h : (FileNode.directory entries).NamesDiffer) (name : String)
    (node : FileNode) : (FileNode.directory (set entries name node)).NamesDiffer := by
  show ((set entries name node).map (·.1)).Nodup
  rw [map_fst_set]
  split
  · exact h
  · rename_i hnew
    rw [List.nodup_append]
    refine ⟨h, by simp, ?_⟩
    intro other hother same hsame hequal
    rw [List.mem_singleton] at hsame
    exact hnew (hsame ▸ hequal ▸ hother)

/-! ### Storing further down -/

/-- What is in the directory of a name, one that is still to be made included, unless something
    else has the name. -/
def inside? (entries : Directory) (name : String) : Option Directory :=
  match entries.get? name with
  | none => some []
  | some (.directory inner) => some inner
  | some _ => none

/-- To store a node further down is to store it in the directory of the first name. -/
theorem place_below {fits : String → Bool} {name : String} {rest : List String} {node : FileNode}
    (hrest : rest ≠ []) :
    place fits entries (name :: rest) node =
      if fits name then
        match entries.inside? name with
        | some inner =>
          ⟨set entries name (.directory (place fits inner rest node).tree),
            (place fits inner rest node).stored⟩
        | none => ⟨entries, false⟩
      else ⟨entries, false⟩ := by
  cases rest with
  | nil => exact absurd rfl hrest
  | cons next more =>
    rw [place]
    · cases hfits : fits name with
      | false => simp
      | true =>
        simp only [inside?]
        cases h : entries.get? name with
        | none => simp
        | some old => cases old <;> simp
    · simp

theorem throughout_of_inside? {P : FileNode → Prop} {name : String} {inner : Directory}
    (hnil : P (.directory [])) (hall : (FileNode.directory entries).Throughout P)
    (h : entries.inside? name = some inner) : (FileNode.directory inner).Throughout P := by
  unfold inside? at h
  split at h
  · cases h
    exact throughout_nil hnil
  · rename_i found hget
    cases h
    exact throughout_of_get? hall hget
  · cases h

/-- **Storing.** What holds throughout a tree and a node holds throughout the tree in which the node
    is stored, if it holds of an empty directory and does not end where a name is given a node. -/
theorem throughout_place {P : FileNode → Prop} (hnil : P (.directory []))
    (hset : ∀ entries name node, P (.directory entries) → P (.directory (set entries name node)))
    {fits : String → Bool} {path : List String} {node : FileNode}
    (hall : (FileNode.directory entries).Throughout P) (hnode : node.Throughout P) :
    (FileNode.directory (place fits entries path node).tree).Throughout P := by
  have hroot : ∀ {entries : Directory}, (FileNode.directory entries).Throughout P →
      P (.directory entries) := fun hall => hall [] _ rfl
  -- along the path; wherever it cannot go on the tree stays as it is
  induction path generalizing entries with
  | nil => exact hall
  | cons name rest ih =>
    by_cases hrest : rest = []
    · subst hrest
      simp only [place]
      split
      · exact hall
      · split
        · exact hall
        · exact hall
        · exact throughout_set hall hnode (hset _ _ _ (hroot hall))
    · rw [place_below hrest]
      split
      · split
        · rename_i inner hinner
          exact throughout_set hall (ih (throughout_of_inside? hnil hall hinner))
            (hset _ _ _ (hroot hall))
        · exact hall
      · exact hall

/-- No link comes into being where a node without links is stored. -/
theorem linkFree_place {fits : String → Bool} {path : List String} {node : FileNode}
    (hfree : (FileNode.directory entries).LinkFree) (hnode : node.LinkFree) :
    (FileNode.directory (place fits entries path node).tree).LinkFree := by
  rw [FileNode.linkFree_iff] at hfree hnode ⊢
  exact throughout_place (fun _ => by simp) (fun _ _ _ _ _ => by simp) hfree hnode

end Directory

end PlainScan

import Mathlib.Data.List.Basic
import Mathlib.Data.List.TakeWhile
import PlainScan.Proofs.FileTree.Lookup

namespace PlainScan

/-!
# Names and slashes

A name is not empty and no slash is in it.  Paths that are read consist of names, and so do the
paths of a tree whose entries have names.  That is why a path without a root is still without one
when it has been written and read again.

* `IsFileName` — a text that can be a name.
* `FilePath.HasNames`, `FileNode.HasNames` — paths and directories made of names.
* `FilePath.hasNames_parse` — what is read has names.
* `FilePath.isAbsolute_parse_text` — whether a path that has been written has a root.
* `FilePath.parse_append` — a text that goes on after a slash.
* `FilePath.components_eq_of_text_eq` — what is written for two paths tells them apart.
-/

/-- A text that can be a name: it is not empty, and no slash is in it. -/
def IsFileName (name : String) : Prop := name ≠ "" ∧ '/' ∉ name.toList

instance (name : String) : Decidable (IsFileName name) :=
  inferInstanceAs (Decidable (name ≠ "" ∧ '/' ∉ name.toList))

/-- All components of a path are names. -/
def FilePath.HasNames (p : FilePath) : Prop := ∀ component ∈ p.components, IsFileName component

/-- All entries of a directory have names. -/
def FileNode.HasNames : FileNode → Prop
  | .directory entries => ∀ e ∈ entries, IsFileName e.1
  | _ => True

/-! ### Pieces -/

namespace Text

/-- The separator is in no piece. -/
theorem notMem_of_mem_pieces {separator : Char} {text piece : List Char}
    (h : piece ∈ pieces separator text) : separator ∉ piece := by
  induction text generalizing piece with
  | nil =>
    rw [List.mem_singleton.mp h]
    exact List.not_mem_nil
  | cons c rest ih =>
    unfold pieces at h
    split at h
    · rcases List.mem_cons.mp h with rfl | hrest
      · exact List.not_mem_nil
      · exact ih hrest
    · next hc =>
      -- the character belongs to the first piece
      have hne : separator ≠ c := fun hsame => hc (by rw [hsame, beq_self_eq_true])
      split at h
      · rw [List.mem_singleton.mp h]
        simpa using hne
      · next first more hpieces =>
        have hfirst : first ∈ pieces separator rest := by
          rw [hpieces]
          exact List.mem_cons_self
        rcases List.mem_cons.mp h with rfl | hmore
        · exact List.not_mem_cons_of_ne_of_not_mem hne (ih hfirst)
        · exact ih (by rw [hpieces]; exact List.mem_cons_of_mem first hmore)

/-- A separator ends a piece. -/
theorem pieces_append (separator : Char) (text rest : List Char) :
    pieces separator (text ++ separator :: rest)
      = pieces separator text ++ pieces separator rest := by
  induction text with
  | nil => simp [pieces]
  | cons c more ih =>
    obtain ⟨first, others, hpieces⟩ := List.exists_cons_of_ne_nil (pieces_ne_nil separator more)
    rw [List.cons_append, pieces, pieces, ih, hpieces]
    split <;> rfl

/-- A text without separators is one piece. -/
theorem pieces_of_notMem {separator : Char} {text : List Char} (h : separator ∉ text) :
    pieces separator text = [text] := by
  induction text with
  | nil => rfl
  | cons c rest ih =>
    rw [List.mem_cons, not_or] at h
    have hc : ¬ (c == separator) = true := fun hsame => h.1 (beq_iff_eq.mp hsame).symm
    rw [pieces, if_neg hc, ih h.2]

/-- Between separators there is nothing. -/
theorem eq_nil_of_mem_pieces {separator : Char} {text piece : List Char}
    (htext : ∀ c ∈ text, c = separator) (h : piece ∈ pieces separator text) : piece = [] := by
  induction text with
  | nil => exact List.mem_singleton.mp h
  | cons c rest ih =>
    rw [List.forall_mem_cons] at htext
    rw [pieces, if_pos (beq_iff_eq.mpr htext.1)] at h
    rcases List.mem_cons.mp h with rfl | hrest
    · rfl
    · exact ih htext.2 hrest

end Text

namespace FilePath

/-! ### Reading -/

/-- What is read has names. -/
theorem hasNames_parse (text : String) : (parse text).HasNames := by
  intro component hcomponent
  obtain ⟨piece, hpiece, rfl⟩ := List.mem_map.mp hcomponent
  obtain ⟨hmem, hproper⟩ := List.mem_filter.mp hpiece
  rw [isProper, Bool.and_eq_true, Bool.not_eq_true', List.isEmpty_eq_false_iff] at hproper
  constructor
  · intro hempty
    exact hproper.1 (by simpa using congrArg String.toList hempty)
  · rw [String.toList_ofList]
    exact Text.notMem_of_mem_pieces hmem

/-- A path that is read has a root if it starts with a slash. -/
theorem isAbsolute_parse_iff (text : String) :
    (parse text).isAbsolute = true ↔ text.toList.head? = some '/' := by
  rw [isAbsolute, parse]
  show (!(rootOf text.toList).isEmpty) = true ↔ _
  cases text.toList with
  | nil => decide
  | cons c rest =>
    unfold rootOf
    by_cases hc : c = '/'
    · subst hc
      simp only [List.takeWhile_cons, beq_self_eq_true, if_true, List.length_cons, List.head?_cons,
        iff_true]
      split
      · contradiction
      · decide
      · decide
    · simp [hc]

/-- Slashes alone have no components. -/
theorem components_parse_of_slashes {text : String} (h : ∀ c ∈ text.toList, c = '/') :
    (parse text).components = [] := by
  rw [parse, List.map_eq_nil_iff, List.filter_eq_nil_iff]
  intro piece hpiece
  rw [Text.eq_nil_of_mem_pieces h hpiece]
  decide

/-- **Going on.** A text that goes on after a slash leads on from the path that it starts with,
    unless that is a bare root. -/
theorem parse_append {base : String} (hbase : (parse base).components ≠ []) (rest : String) :
    parse (base ++ "/" ++ rest) = (parse base).below (parse rest).components := by
  have htext : (base ++ "/" ++ rest).toList = base.toList ++ '/' :: rest.toList := by simp
  have hstart : (base.toList.takeWhile (· == '/')).length ≠ base.toList.length := by
    -- the path would be a bare root
    intro hall
    refine hbase (components_parse_of_slashes fun c hc => ?_)
    have hslashes := (List.takeWhile_prefix _).eq_of_length hall
    exact eq_of_beq (List.takeWhile_eq_self_iff.mp hslashes c hc)
  have hroot : rootOf (base.toList ++ '/' :: rest.toList) = rootOf base.toList := by
    rw [rootOf, rootOf, List.takeWhile_append, if_neg hstart]
  rw [parse, htext, hroot, Text.pieces_append, List.filter_append, List.map_append]
  rfl

/-- The first component of a path without a root stands at the front of its text. -/
theorem head?_text_ne {p : FilePath} (hroot : p.root = "") (h : p.HasNames) :
    p.text.toList.head? ≠ some '/' := by
  obtain ⟨root, components⟩ := p
  cases hroot
  cases components with
  | nil => decide
  | cons first rest =>
    obtain ⟨hne, hslash⟩ := h first List.mem_cons_self
    have hstart : ∃ more, (text ⟨"", first :: rest⟩).toList = first.toList ++ more := by
      cases rest with
      | nil => exact ⟨[], by simp [text]⟩
      | cons second others => exact ⟨_, by simp [text]; rfl⟩
    obtain ⟨more, hmore⟩ := hstart
    have hchars : first.toList ≠ [] := fun hnil => hne (String.toList_injective hnil)
    rw [hmore, List.head?_append_of_ne_nil _ hchars]
    intro hhead
    exact hslash (List.mem_of_head? hhead)

/-- **Written and read.** A path of names without a root is without one after it has been written
    and read again. -/
theorem isAbsolute_parse_text {p : FilePath} (hroot : p.root = "") (h : p.HasNames) :
    (parse p.text).isAbsolute = false := by
  rw [← Bool.not_eq_true, isAbsolute_parse_iff]
  exact head?_text_ne hroot h

/-- The pieces of a written path without a root are its components. -/
theorem pieces_text {p : FilePath} (hroot : p.root = "") (hne : p.components ≠ [])
    (h : p.HasNames) : Text.pieces '/' p.text.toList = p.components.map String.toList := by
  obtain ⟨root, components⟩ := p
  cases hroot
  have htext : (text ⟨"", components⟩).toList
      = ['/'].intercalate (components.map String.toList) := by
    have hcond : ¬ ("".isEmpty && components.isEmpty) = true := by
      simpa using hne
    rw [text, if_neg hcond, String.toList_append, String.toList_intercalate]
    rfl
  rw [htext]
  clear htext
  -- on the components, which have no slash in them
  induction components with
  | nil => exact absurd rfl hne
  | cons first rest ih =>
    have hfirst : '/' ∉ first.toList := (h first List.mem_cons_self).2
    cases rest with
    | nil =>
      have hone := Text.pieces_of_notMem hfirst
      simpa [List.intercalate] using hone
    | cons second more =>
      have hmore := ih (List.cons_ne_nil second more)
        fun component hcomponent => h component (List.mem_cons_of_mem first hcomponent)
      have hjoined : ['/'].intercalate ((first :: second :: more).map String.toList)
          = first.toList ++ '/' :: ['/'].intercalate ((second :: more).map String.toList) := by
        simp [List.intercalate]
      rw [hjoined, Text.pieces_append, Text.pieces_of_notMem hfirst, hmore]
      rfl

/-- **Written paths.** Paths without roots are told apart by what is written for them. -/
theorem components_eq_of_text_eq {p q : FilePath} (hp : p.root = "") (hq : q.root = "")
    (hne : p.components ≠ []) (hne' : q.components ≠ []) (hnames : p.HasNames)
    (hnames' : q.HasNames) (h : p.text = q.text) : p.components = q.components := by
  have hpieces := pieces_text hp hne hnames
  rw [h, pieces_text hq hne' hnames'] at hpieces
  exact ((List.map_inj_right fun _ _ => String.toList_inj.mp).mp hpieces).symm

end FilePath

/-! ### Trees -/

/-- In a tree whose entries have names every path consists of names. -/
theorem FileNode.isFileName_of_below? {node found : FileNode} {path : List String}
    (h : node.Throughout HasNames) (hfound : node.below? path = some found) :
    ∀ name ∈ path, IsFileName name := by
  induction path generalizing node with
  | nil => exact fun name hname => absurd hname List.not_mem_nil
  | cons first rest ih =>
    cases node with
    | file content => cases hfound
    | link target => cases hfound
    | directory entries =>
      rw [below?_directory, Directory.lookup?_cons, Option.bind_eq_some_iff] at hfound
      obtain ⟨node, hget, hbelow⟩ := hfound
      rw [List.forall_mem_cons]
      constructor
      · obtain ⟨e, he, -⟩ := Option.map_eq_some_iff.mp hget
        have hname : e.1 = first := by simpa using List.find?_some he
        rw [← hname]
        exact h [] _ (below?_nil _) e (List.mem_of_find?_eq_some he)
      · exact ih (Directory.throughout_of_get? h hget) hbelow

end PlainScan

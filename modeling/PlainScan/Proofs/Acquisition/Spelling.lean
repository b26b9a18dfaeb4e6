import PlainScan.Proofs.Acquisition.Address

namespace PlainScan.RepoUrl

/-!
# How an address is spelled

A text that is no blank at its ends spells an address in one way at most: the host part, an owner, a
slash, a name, and perhaps another slash.  What is parsed is the owner, and the name without a final
`.git`.

* `RepoUrl.Spells` — an owner and a name spelled by a text.
* `RepoUrl.IsNamedBy` — the repository that a name stands for; `RepoUrl.isNamedBy_iff` — it is the
  name without the ending.
* `RepoUrl.parse_spelling` — the addresses that are parsed, and why the others are not.
-/

/-! ### Spellings -/

/-- A text spells an owner and a name. -/
structure Spells (owner name text : String) : Prop where
  owner_ne : owner ≠ ""
  owner_chars : ∀ c ∈ owner.toList, Text.isWord c = true ∨ c = '-'
  name_ne : name ≠ ""
  name_chars : ∀ c ∈ name.toList, Text.isWord c = true ∨ c = '.' ∨ c = '-'
  text_eq : ∃ tail, (tail = "" ∨ tail = "/")
    ∧ text = "https://github.com/" ++ owner ++ "/" ++ name ++ tail

/-- The repository that a name stands for: the name without a final `.git`, unless nothing would be
    left, and else the whole name.  A directory's names for itself and its parent name none. -/
structure IsNamedBy (repo name : String) : Prop where
  without : repo ≠ "" ∧ name = repo ++ ".git"
    ∨ repo = name ∧ ¬ ∃ stem, stem ≠ "" ∧ name = stem ++ ".git"
  ne_dot : repo ≠ "."
  ne_dots : repo ≠ ".."

theorem toList_ne_nil_iff {text : String} : text.toList ≠ [] ↔ text ≠ "" := by
  rw [ne_eq, ne_eq, String.toList_eq_nil_iff]

/-- The ending of a name as a string. -/
theorem endsInGit_toList_iff {name : String} :
    EndsInGit name.toList ↔ ∃ stem, stem ≠ "" ∧ name = stem ++ ".git" := by
  constructor
  · rintro ⟨stem, hne, hname⟩
    refine ⟨String.ofList stem, ?_, ?_⟩
    · rwa [← toList_ne_nil_iff, String.toList_ofList]
    · rw [← String.toList_inj, hname, String.toList_append, String.toList_ofList]
      rfl
  · rintro ⟨stem, hne, rfl⟩
    exact ⟨stem.toList, toList_ne_nil_iff.mpr hne, String.toList_append⟩

/-- It is what is left of the name without the ending. -/
theorem isNamedBy_iff {repo name : String} :
    IsNamedBy repo name ↔ repo.toList = dropGit name.toList ∧ repo ≠ "." ∧ repo ≠ ".." := by
  have hwithout : (repo ≠ "" ∧ name = repo ++ ".git"
      ∨ repo = name ∧ ¬ ∃ stem, stem ≠ "" ∧ name = stem ++ ".git")
        ↔ repo.toList = dropGit name.toList := by
    rw [← endsInGit_toList_iff]
    constructor
    · rintro (⟨hne, rfl⟩ | ⟨rfl, hends⟩)
      · rw [String.toList_append]
        exact (dropGit_append (toList_ne_nil_iff.mpr hne)).symm
      · exact (dropGit_of_not_endsInGit hends).symm
    · intro hrepo
      -- a name with the ending loses it, and any other name stays
      by_cases hends : EndsInGit name.toList
      · obtain ⟨stem, hne, hname⟩ := endsInGit_toList_iff.mp hends
        rw [hname, String.toList_append] at hrepo
        have hstem : repo = stem := by
          rw [← String.toList_inj, hrepo]
          exact dropGit_append (toList_ne_nil_iff.mpr hne)
        exact .inl ⟨hstem ▸ hne, hstem ▸ hname⟩
      · rw [dropGit_of_not_endsInGit hends, String.toList_inj] at hrepo
        exact .inr ⟨hrepo, hends⟩
  exact ⟨fun h => ⟨hwithout.mp h.without, h.ne_dot, h.ne_dots⟩,
    fun h => ⟨hwithout.mpr h.1, h.2.1, h.2.2⟩⟩

/-- Behind the host part stand an owner and a name. -/
theorem spells_iff {owner name text : String} :
    Spells owner name text ↔
      owner.toList ≠ [] ∧ (∀ c ∈ owner.toList, isOwnerChar c = true) ∧ name.toList ≠ []
        ∧ (∀ c ∈ name.toList, isNameChar c = true)
        ∧ ∃ tail, endsAddress tail = true
          ∧ text.toList = hostPart.toList ++ (owner.toList ++ '/' :: (name.toList ++ tail)) := by
  have howner : ∀ c, isOwnerChar c = true ↔ Text.isWord c = true ∨ c = '-' := by
    simp [isOwnerChar]
  have hname : ∀ c, isNameChar c = true ↔ Text.isWord c = true ∨ c = '.' ∨ c = '-' := by
    simp [isNameChar, or_assoc]
  -- the two ends of an address as characters and as texts
  have htail : (∃ tail, (tail = "" ∨ tail = "/")
      ∧ text = "https://github.com/" ++ owner ++ "/" ++ name ++ tail) ↔
        ∃ tail, endsAddress tail = true
          ∧ text.toList = hostPart.toList ++ (owner.toList ++ '/' :: (name.toList ++ tail)) := by
    have htext : ∀ tail : String, text = "https://github.com/" ++ owner ++ "/" ++ name ++ tail ↔
        text.toList = hostPart.toList ++ (owner.toList ++ '/' :: (name.toList ++ tail.toList)) := by
      intro tail
      rw [← String.toList_inj]
      simp [hostPart]
    constructor
    · rintro ⟨tail, hends, hsame⟩
      refine ⟨tail.toList, endsAddress_iff.mpr ?_, (htext tail).mp hsame⟩
      exact hends.imp (congrArg String.toList) (congrArg String.toList)
    · rintro ⟨tail, hends, hsame⟩
      refine ⟨String.ofList tail, ?_, (htext _).mpr ?_⟩
      · exact (endsAddress_iff.mp hends).imp (congrArg String.ofList) (congrArg String.ofList)
      · rwa [String.toList_ofList]
  simp only [howner, hname, toList_ne_nil_iff, ← htail]
  exact ⟨fun h => ⟨h.owner_ne, h.owner_chars, h.name_ne, h.name_chars, h.text_eq⟩,
    fun h => ⟨h.1, h.2.1, h.2.2.1, h.2.2.2.1, h.2.2.2.2⟩⟩

/-- A text has one spelling at most. -/
theorem Spells.unique {owner owner' name name' text : String} (h : Spells owner name text)
    (h' : Spells owner' name' text) : owner = owner' ∧ name = name' := by
  obtain ⟨-, howner, -, hname, tail, htail, htext⟩ := spells_iff.mp h
  obtain ⟨-, howner', -, hname', tail', htail', htext'⟩ := spells_iff.mp h'
  have hrest := List.append_cancel_left (htext.symm.trans htext')
  have hsame := (takeWhile_owner howner (name.toList ++ tail)).1
  rw [hrest, (takeWhile_owner howner' (name'.toList ++ tail')).1] at hsame
  rw [hsame, List.append_right_inj, List.cons.injEq] at hrest
  have hnames := takeWhile_name hname htail
  rw [hrest.2, takeWhile_name hname' htail'] at hnames
  exact ⟨(String.toList_inj.mp hsame).symm, (String.toList_inj.mp hnames).symm⟩

/-! ### What is parsed -/

/-- A text behind the host part is parsed by its owner and its name. -/
theorem parseNames_drop_iff (owner repo : String) {text : String}
    (hhost : hostPart.toList <+: text.toList) :
    parseNames (text.toList.drop hostPart.toList.length) = some ⟨owner, repo⟩ ↔
      ∃ name, Spells owner name text ∧ IsNamedBy repo name := by
  obtain ⟨behind, hbehind⟩ := hhost
  have hdot : repo.toList ≠ ['.'] ↔ repo ≠ "." := by rw [ne_eq, ne_eq, ← String.toList_inj]; rfl
  have hdots : repo.toList ≠ ['.', '.'] ↔ repo ≠ ".." := by
    rw [ne_eq, ne_eq, ← String.toList_inj]
    rfl
  rw [← hbehind, List.drop_left, ← String.ofList_toList (s := owner),
    ← String.ofList_toList (s := repo), parseNames_eq_some_iff]
  -- in terms of characters both sides say the same of what is behind the host part
  simp only [String.ofList_toList, spells_iff, isNamedBy_iff, ← hbehind, List.append_right_inj,
    hdot, hdots]
  constructor
  · rintro ⟨howner, hchars, hdot, hdots, rest, rfl, hfound⟩
    obtain ⟨name, tail, hne, hname, htail, rfl, hrepo⟩ := shortestName_eq_some_iff.mp hfound
    refine ⟨String.ofList name, ?_, ?_⟩
    · rw [String.toList_ofList]
      exact ⟨howner, hchars, hne, hname, tail, htail, rfl⟩
    · rw [String.toList_ofList]
      exact ⟨hrepo, hdot, hdots⟩
  · rintro ⟨name, ⟨howner, hchars, hne, hname, tail, htail, rfl⟩, hrepo, hdot, hdots⟩
    exact ⟨howner, hchars, hdot, hdots, name.toList ++ tail, rfl,
      shortestName_eq_some_iff.mpr ⟨name.toList, tail, hne, hname, htail, rfl, hrepo⟩⟩

/-- A text that spells an address starts with the host part. -/
theorem Spells.host_prefix {owner name text : String} (h : Spells owner name text) :
    hostPart.toList <+: text.toList := by
  obtain ⟨-, -, -, -, tail, -, htext⟩ := spells_iff.mp h
  exact ⟨_, htext.symm⟩

/-- What a text is parsed as is decided by what is left of it without the blanks around it. -/
theorem parse_eq (text : String) :
    parse text =
      if Text.stripString text = "" then .error .empty
      else if ¬ hostPart.toList <+: (Text.stripString text).toList then .error .otherHost
      else match parseNames ((Text.stripString text).toList.drop hostPart.toList.length) with
        | some url => .ok url
        | none => .error .malformed := by
  have hempty : Text.stripString text = "" ↔ (Text.strip text.toList).isEmpty = true := by
    rw [← String.toList_inj, Text.stripString, String.toList_ofList, List.isEmpty_iff]
    rfl
  have hhost : ¬ hostPart.toList <+: (Text.stripString text).toList ↔
      (!Text.startsWith hostPart.toList (Text.strip text.toList)) = true := by
    rw [Text.stripString, String.toList_ofList, Text.startsWith, ← List.isPrefixOf_iff_prefix,
      Bool.not_eq_true', Bool.not_eq_true]
  simp only [hempty, hhost]
  rw [Text.stripString, String.toList_ofList]
  rfl

/-- **Spelled addresses.** A text is parsed as an owner and a repository exactly if, without the
    blanks around it, it spells that owner and a name that the repository is named by; the normal
    form of the two is the host part, the owner, a slash and the repository.  Any other text is
    refused as empty if nothing is left of it, and as another host's if what is left does not start
    with the host part. -/
theorem parse_spelling (text : String) :
    (∀ owner repo, parse text = .ok ⟨owner, repo⟩ ↔
      ∃ name, Spells owner name (Text.stripString text) ∧ IsNamedBy repo name)
    ∧ (∀ url : RepoUrl, url.text = "https://github.com/" ++ url.owner ++ "/" ++ url.repo)
    ∧ (parse text = .error .empty ↔ Text.stripString text = "")
    ∧ (parse text = .error .otherHost ↔ Text.stripString text ≠ ""
        ∧ ¬ "https://github.com/".toList <+: (Text.stripString text).toList) := by
  have hlong : ¬ hostPart.toList <+: "".toList := by decide
  rw [parse_eq]
  by_cases hempty : Text.stripString text = ""
  -- nothing spells an address
  · rw [if_pos hempty, hempty]
    refine ⟨fun owner repo => ⟨nofun, ?_⟩, fun url => rfl, by simp, by simp⟩
    rintro ⟨name, hspells, -⟩
    exact absurd hspells.host_prefix hlong
  rw [if_neg hempty]
  by_cases hhost : hostPart.toList <+: (Text.stripString text).toList
  -- behind the host part the reader finds the names exactly where they are spelled
  · rw [if_neg (not_not.mpr hhost)]
    have hspelled := fun owner repo => parseNames_drop_iff owner repo hhost
    generalize parseNames ((Text.stripString text).toList.drop hostPart.toList.length) = found
      at hspelled ⊢
    refine ⟨fun owner repo => ?_, fun url => rfl, ?_, ?_⟩
    · rw [← hspelled]
      cases found with
      | none => simp
      | some url => simp
    · refine iff_of_false ?_ hempty
      cases found <;> simp
    · refine iff_of_false ?_ (fun h => h.2 hhost)
      cases found <;> simp
  -- every spelling starts with the host part
  · rw [if_pos hhost]
    refine ⟨fun owner repo => ⟨nofun, ?_⟩, fun url => rfl, ?_, ?_⟩
    · rintro ⟨name, hspells, -⟩
      exact absurd hspells.host_prefix hhost
    · exact ⟨nofun, fun h => absurd h hempty⟩
    · exact ⟨fun _ => ⟨hempty, hhost⟩, fun _ => rfl⟩

end PlainScan.RepoUrl

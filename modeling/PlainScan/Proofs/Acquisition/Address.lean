import PlainScan.Proofs.Text.Blank
import PlainScan.RepoUrl

namespace PlainScan

/-!
# The normal form of an address

An address is parsed once when a scan is asked for, and its normal form once more when the
repository is acquired.

* `RepoUrl.EndsInGit` — a name that ends in `.git`; `RepoUrl.dropGit` — what is left without that.
* `RepoUrl.shortestName_eq_some_iff` — the name at the end of an address.
* `RepoUrl.Names` — an owner and a name that an address can have.
* `RepoUrl.parseNames_eq_some_iff` — what stands behind the host part.
* `RepoUrl.Names.eq_of_parse_text` — what the normal form of an address is parsed as.
* `RepoUrl.Names.parse_text_iff` — when that is the same again.
-/

namespace RepoUrl

/-- No character of a name is a blank. -/
theorem not_isBlank_of_isNameChar {c : Char} (h : isNameChar c = true) :
    Text.isBlank c = false := by
  have hnone : ∀ n ∈ Text.blankCodes, isNameChar (Char.ofNat n) = false := by decide +kernel
  cases hblank : Text.isBlank c with
  | false => rfl
  | true =>
    have hname := hnone c.toNat (Text.toNat_mem_blankCodes hblank)
    rw [Char.ofNat_toNat, h] at hname
    cases hname

/-! ### Endings -/

/-- The name without its final `.git`, where something is left of it. -/
def dropGit (name : List Char) : List Char :=
  if gitEnding.length < name.length && gitEnding.isSuffixOf name then
    name.take (name.length - gitEnding.length)
  else name

/-- Whether a name ends in `.git` and something comes before that. -/
def EndsInGit (name : List Char) : Prop := ∃ stem, stem ≠ [] ∧ name = stem ++ gitEnding

/-- The ending is dropped. -/
theorem dropGit_append {stem : List Char} (h : stem ≠ []) : dropGit (stem ++ gitEnding) = stem := by
  have hlt : gitEnding.length < (stem ++ gitEnding).length := by
    have hpos := List.length_pos_iff.mpr h
    rw [List.length_append]
    omega
  have hsuffix : gitEnding.isSuffixOf (stem ++ gitEnding) = true :=
    List.isSuffixOf_iff_suffix.mpr (List.suffix_append stem gitEnding)
  rw [dropGit, hsuffix, decide_eq_true hlt, Bool.and_true, if_pos rfl, List.length_append,
    Nat.add_sub_cancel, List.take_left]

/-- Without the ending a name is left as it is. -/
theorem dropGit_of_not_endsInGit {name : List Char} (h : ¬ EndsInGit name) :
    dropGit name = name := by
  unfold dropGit
  split
  · rename_i hcond
    exfalso
    rw [Bool.and_eq_true, decide_eq_true_eq, List.isSuffixOf_iff_suffix] at hcond
    obtain ⟨hlt, stem, rfl⟩ := hcond
    refine h ⟨stem, ?_, rfl⟩
    rintro rfl
    exact absurd hlt (Nat.lt_irrefl _)
  · rfl

theorem dropGit_eq_self_iff {name : List Char} : dropGit name = name ↔ ¬ EndsInGit name := by
  refine ⟨?_, dropGit_of_not_endsInGit⟩
  rintro heq ⟨stem, hne, rfl⟩
  -- what is left would be as long as the whole
  rw [dropGit_append hne] at heq
  have hlength := congrArg List.length heq
  rw [List.length_append] at hlength
  exact absurd (Nat.left_eq_add.mp hlength) (by decide)

instance (name : List Char) : Decidable (EndsInGit name) :=
  decidable_of_iff (¬ dropGit name = name)
    ((not_congr dropGit_eq_self_iff).trans Classical.not_not)

/-! ### The shortest name -/

theorem endsAddress_iff {text : List Char} :
    endsAddress text = true ↔ text = [] ∨ text = ['/'] := by
  simp [endsAddress]

theorem followsName_iff {text : List Char} :
    followsName text = true ↔
      ∃ tail, endsAddress tail = true ∧ (text = tail ∨ text = gitEnding ++ tail) := by
  rw [followsName, Bool.or_eq_true, Bool.and_eq_true, List.isPrefixOf_iff_prefix]
  constructor
  · rintro (⟨⟨tail, rfl⟩, hends⟩ | hends)
    · rw [List.drop_left] at hends
      exact ⟨tail, hends, .inr rfl⟩
    · exact ⟨text, hends, .inl rfl⟩
  · rintro ⟨tail, hends, rfl | rfl⟩
    · exact .inr hends
    · exact .inl ⟨List.prefix_append _ _, by rwa [List.drop_left]⟩

/-- A name is what comes before the first slash. -/
theorem takeWhile_name {name tail : List Char} (hname : ∀ c ∈ name, isNameChar c = true)
    (htail : endsAddress tail = true) : (name ++ tail).takeWhile isNameChar = name := by
  have hslash : isNameChar '/' = false := by decide
  rw [List.takeWhile_append_of_pos hname]
  rcases endsAddress_iff.mp htail with rfl | rfl
  · rw [List.takeWhile_nil, List.append_nil]
  · rw [List.takeWhile_cons_of_neg (by rw [hslash]; exact Bool.false_ne_true), List.append_nil]

/-- The ending could be a name by itself. -/
theorem isNameChar_of_mem_gitEnding {c : Char} (h : c ∈ gitEnding) : isNameChar c = true := by
  have hchars : gitEnding = ['.', 'g', 'i', 't'] := rfl
  simp only [hchars, List.mem_cons, List.not_mem_nil, or_false] at h
  rcases h with rfl | rfl | rfl | rfl <;> decide

/-- Only nothing or `.git` is left of a name where the rest may follow the name. -/
theorem followsName_append_iff {rest tail : List Char} (hrest : ∀ c ∈ rest, isNameChar c = true)
    (htail : endsAddress tail = true) :
    followsName (rest ++ tail) = true ↔ rest = [] ∨ rest = gitEnding := by
  rw [followsName_iff]
  constructor
  · rintro ⟨other, hother, hsame | hsame⟩
    · left
      rw [← takeWhile_name hrest htail, hsame]
      exact takeWhile_name (List.forall_mem_nil _) hother
    · right
      rw [← takeWhile_name hrest htail, hsame,
        takeWhile_name (fun c => isNameChar_of_mem_gitEnding) hother]
  · rintro (rfl | rfl)
    · exact ⟨tail, htail, .inl rfl⟩
    · exact ⟨tail, htail, .inr rfl⟩

/-- A first character more stays where more than the ending is left behind it. -/
theorem dropGit_cons {rest : List Char} (hne : rest ≠ gitEnding) (c : Char) :
    dropGit (c :: rest) = c :: dropGit rest := by
  by_cases hends : EndsInGit rest
  · obtain ⟨stem, hstem, rfl⟩ := hends
    rw [dropGit_append hstem, ← List.cons_append, dropGit_append (List.cons_ne_nil c stem)]
  · have hnot : ¬ EndsInGit (c :: rest) := by
      rintro ⟨stem, hstem, hsame⟩
      obtain ⟨first, more, rfl⟩ := List.exists_cons_of_ne_nil hstem
      obtain ⟨-, hrest⟩ := List.cons.inj hsame
      by_cases hmore : more = []
      · exact hne (by rw [hrest, hmore]; rfl)
      · exact hends ⟨more, hmore, hrest⟩
    rw [dropGit_of_not_endsInGit hends, dropGit_of_not_endsInGit hnot]

/-- **The shortest name.** Of a name at the end of an address everything is taken but a final
    `.git`. -/
theorem shortestName_append {name tail : List Char} (hne : name ≠ [])
    (hname : ∀ c ∈ name, isNameChar c = true) (htail : endsAddress tail = true) :
    shortestName (name ++ tail) = some (dropGit name) := by
  induction name with
  | nil => exact absurd rfl hne
  | cons c rest ih =>
    rw [List.forall_mem_cons] at hname
    obtain ⟨hc, hrest⟩ := hname
    have hfollows := followsName_append_iff hrest htail
    rw [List.cons_append, shortestName, hc, Bool.not_true, if_neg Bool.false_ne_true]
    by_cases hnil : rest = []
    · subst hnil
      rw [if_pos (hfollows.mpr (.inl rfl)), dropGit_of_not_endsInGit]
      rintro ⟨stem, hstem, hsame⟩
      -- one character is too short for the ending
      have hlength := congrArg List.length hsame
      have hpos := List.length_pos_iff.mpr hstem
      rw [List.length_append, List.length_singleton] at hlength
      have hgit : gitEnding.length = 4 := rfl
      omega
    · by_cases hgit : rest = gitEnding
      · subst hgit
        rw [if_pos (hfollows.mpr (.inr rfl))]
        exact congrArg some (dropGit_append (List.cons_ne_nil c [])).symm
      · rw [if_neg (fun h => (hfollows.mp h).elim hnil hgit), ih hnil hrest, dropGit_cons hgit]
        rfl

/-- Where a name is found at all an address ends behind one. -/
theorem exists_of_shortestName {text repo : List Char} (h : shortestName text = some repo) :
    ∃ name tail, name ≠ [] ∧ (∀ c ∈ name, isNameChar c = true) ∧ endsAddress tail = true
      ∧ text = name ++ tail := by
  induction text generalizing repo with
  | nil => cases h
  | cons c rest ih =>
    rw [shortestName] at h
    split at h
    · cases h
    · next hc =>
      rw [Bool.not_eq_true', Bool.not_eq_false] at hc
      split at h
      · next hfollows =>
        -- the name ends here, with its ending or without
        obtain ⟨tail, htail, hrest⟩ := followsName_iff.mp hfollows
        rcases hrest with rfl | rfl
        · exact ⟨[c], rest, List.cons_ne_nil c [], by simpa using hc, htail, rfl⟩
        · refine ⟨c :: gitEnding, tail, List.cons_ne_nil _ _, ?_, htail, rfl⟩
          rw [List.forall_mem_cons]
          exact ⟨hc, fun d => isNameChar_of_mem_gitEnding⟩
      · obtain ⟨found, hfound, -⟩ := Option.map_eq_some_iff.mp h
        obtain ⟨name, tail, hne, hname, htail, rfl⟩ := ih hfound
        refine ⟨c :: name, tail, List.cons_ne_nil c name, ?_, htail, rfl⟩
        rw [List.forall_mem_cons]
        exact ⟨hc, hname⟩

/-- **Names of repositories.** A name is found exactly where an address ends behind one, and it is
    found without its final `.git`. -/
theorem shortestName_eq_some_iff {text repo : List Char} :
    shortestName text = some repo ↔ ∃ name tail, name ≠ [] ∧ (∀ c ∈ name, isNameChar c = true)
      ∧ endsAddress tail = true ∧ text = name ++ tail ∧ repo = dropGit name := by
  constructor
  · intro h
    obtain ⟨name, tail, hne, hname, htail, rfl⟩ := exists_of_shortestName h
    rw [shortestName_append hne hname htail, Option.some.injEq] at h
    exact ⟨name, tail, hne, hname, htail, rfl, h.symm⟩
  · rintro ⟨name, tail, hne, hname, htail, rfl, rfl⟩
    exact shortestName_append hne hname htail

/-! ### Names -/

/-- An owner and a name that an address can have. -/
structure Names (url : RepoUrl) : Prop where
  owner_ne : url.owner.toList ≠ []
  owner_chars : ∀ c ∈ url.owner.toList, isOwnerChar c = true
  repo_ne : url.repo.toList ≠ []
  repo_chars : ∀ c ∈ url.repo.toList, isNameChar c = true
  repo_ne_dot : url.repo.toList ≠ ['.']
  repo_ne_dots : url.repo.toList ≠ ['.', '.']

/-- Something is left of a name, and nothing is added to it. -/
theorem dropGit_spec {name : List Char} (h : name ≠ []) :
    dropGit name ≠ [] ∧ ∀ c ∈ dropGit name, c ∈ name := by
  by_cases hends : EndsInGit name
  · obtain ⟨stem, hne, rfl⟩ := hends
    rw [dropGit_append hne]
    exact ⟨hne, fun c hc => List.mem_append_left _ hc⟩
  · rw [dropGit_of_not_endsInGit hends]
    exact ⟨h, fun c hc => hc⟩

/-- An owner is what comes before the first slash. -/
theorem takeWhile_owner {owner : List Char} (h : ∀ c ∈ owner, isOwnerChar c = true)
    (rest : List Char) : (owner ++ '/' :: rest).takeWhile isOwnerChar = owner
      ∧ (owner ++ '/' :: rest).dropWhile isOwnerChar = '/' :: rest := by
  have hslash : ¬ isOwnerChar '/' = true := by decide
  rw [List.takeWhile_append_of_pos h, List.takeWhile_cons_of_neg hslash, List.append_nil,
    List.dropWhile_append_of_pos h, List.dropWhile_cons_of_neg hslash]
  exact ⟨rfl, rfl⟩

/-- **Behind the host part.** An owner and a name are found exactly if they are what the text is
    made of and something is left that can be the name of a repository. -/
theorem parseNames_eq_some_iff {text owner repo : List Char} :
    parseNames text = some ⟨String.ofList owner, String.ofList repo⟩ ↔
      owner ≠ [] ∧ (∀ c ∈ owner, isOwnerChar c = true) ∧ repo ≠ ['.'] ∧ repo ≠ ['.', '.']
        ∧ ∃ rest, text = owner ++ '/' :: rest ∧ shortestName rest = some repo := by
  constructor
  · intro h
    simp only [parseNames] at h
    split at h
    · next rest hrest =>
      split at h
      · next found hfound =>
        split at h
        · cases h
        · next hcond =>
          simp only [Bool.or_eq_true, not_or, beq_iff_eq, List.isEmpty_iff] at hcond
          rw [Option.some.injEq, RepoUrl.mk.injEq, String.ofList_inj, String.ofList_inj] at h
          obtain ⟨rfl, rfl⟩ := h
          obtain ⟨⟨howner, hdot⟩, hdots⟩ := hcond
          refine ⟨howner, List.all_eq_true.mp List.all_takeWhile, hdot, hdots, rest, ?_, hfound⟩
          rw [← hrest, List.takeWhile_append_dropWhile]
      · cases h
    · cases h
  · rintro ⟨howner, hchars, hdot, hdots, rest, rfl, hfound⟩
    -- the owner ends before the slash, which is no character of an owner
    obtain ⟨htake, hdrop⟩ := takeWhile_owner hchars rest
    simp only [parseNames, htake, hdrop, hfound, List.isEmpty_eq_false_iff.mpr howner,
      Bool.false_or, Bool.or_eq_true, beq_iff_eq, hdot, hdots, or_self, if_false]

/-- What is found behind the host part are names. -/
theorem names_of_parseNames {rest : List Char} {url : RepoUrl} (h : parseNames rest = some url) :
    url.Names := by
  obtain ⟨owner, repo⟩ := url
  rw [← String.ofList_toList (s := owner), ← String.ofList_toList (s := repo),
    parseNames_eq_some_iff] at h
  obtain ⟨howner, hchars, hdot, hdots, more, -, hfound⟩ := h
  obtain ⟨name, tail, hne, hname, -, -, hrepo⟩ := shortestName_eq_some_iff.mp hfound
  obtain ⟨hleft, hmem⟩ := dropGit_spec hne
  refine ⟨howner, hchars, ?_, ?_, hdot, hdots⟩
  · rwa [hrepo]
  · rw [hrepo]
    exact fun c hc => hname c (hmem c hc)

/-- An address that is parsed gives names. -/
theorem names_of_parse {text : String} {url : RepoUrl} (h : parse text = .ok url) :
    url.Names := by
  simp only [parse] at h
  split at h
  · cases h
  · split at h
    · cases h
    · split at h
      · rename_i found hfound
        cases h
        exact names_of_parseNames hfound
      · cases h

/-! ### Parsing a normal form -/

/-- The characters of a normal form. -/
theorem toList_text (url : RepoUrl) :
    url.text.toList = hostPart.toList ++ (url.owner.toList ++ '/' :: url.repo.toList) := by
  simp [text]

/-- A normal form has no blanks at its ends. -/
theorem Names.strip_text {url : RepoUrl} (h : url.Names) :
    Text.strip url.text.toList = url.text.toList := by
  rcases List.eq_nil_or_concat url.repo.toList with hnil | ⟨mid, last, hrepo⟩
  · exact absurd hnil h.repo_ne
  · have hlast : Text.isBlank last = false := by
      apply not_isBlank_of_isNameChar
      apply h.repo_chars
      rw [hrepo, List.concat_eq_append]
      exact List.mem_append_right _ List.mem_cons_self
    -- the host part comes first, and its first character is no blank
    obtain ⟨start, hstart⟩ : ∃ start, hostPart.toList = 'h' :: start := ⟨_, rfl⟩
    have htext : url.text.toList
        = 'h' :: ((start ++ (url.owner.toList ++ '/' :: mid)) ++ [last]) := by
      rw [toList_text, hrepo, hstart, List.concat_eq_append]
      simp
    rw [htext]
    apply Text.IsBare.strip_eq
    constructor
    · intro c hc
      cases hc
      decide
    · intro c hc
      rw [← List.cons_append, List.getLast?_concat] at hc
      cases hc
      exact hlast

/-- Names end where a slash stands or nothing more comes. -/
theorem Names.parseNames_eq {url : RepoUrl} (h : url.Names) :
    parseNames (url.owner.toList ++ '/' :: url.repo.toList) =
      if dropGit url.repo.toList = ['.'] ∨ dropGit url.repo.toList = ['.', '.'] then none
      else some ⟨url.owner, String.ofList (dropGit url.repo.toList)⟩ := by
  obtain ⟨htake, hdrop⟩ := takeWhile_owner h.owner_chars url.repo.toList
  have hname := shortestName_append h.repo_ne h.repo_chars (rfl : endsAddress [] = true)
  rw [List.append_nil] at hname
  simp only [parseNames, htake, hdrop, hname, List.isEmpty_eq_false_iff.mpr h.owner_ne,
    Bool.false_or, Bool.or_eq_true, beq_iff_eq, String.ofList_toList]

/-- A normal form is parsed by its names. -/
theorem Names.parse_text_eq {url : RepoUrl} (h : url.Names) :
    parse url.text =
      if dropGit url.repo.toList = ['.'] ∨ dropGit url.repo.toList = ['.', '.'] then
        .error .malformed
      else .ok ⟨url.owner, String.ofList (dropGit url.repo.toList)⟩ := by
  have hne : url.text.toList.isEmpty = false := by
    rw [toList_text]
    rfl
  have hhost : Text.startsWith hostPart.toList url.text.toList = true := by
    rw [toList_text]
    exact List.isPrefixOf_iff_prefix.mpr (List.prefix_append _ _)
  have hdrop : url.text.toList.drop hostPart.toList.length
      = url.owner.toList ++ '/' :: url.repo.toList := by
    rw [toList_text, List.drop_left]
  simp only [parse, h.strip_text, hne, hhost, hdrop, h.parseNames_eq, Bool.false_eq_true, if_false,
    Bool.not_true]
  by_cases hdots : dropGit url.repo.toList = ['.'] ∨ dropGit url.repo.toList = ['.', '.']
  · rw [if_pos hdots, if_pos hdots]
  · rw [if_neg hdots, if_neg hdots]

/-- What a normal form is parsed as has the same owner, and the name without a final `.git`. -/
theorem Names.eq_of_parse_text {url found : RepoUrl} (h : url.Names)
    (hfound : parse url.text = .ok found) :
    found = ⟨url.owner, String.ofList (dropGit url.repo.toList)⟩ := by
  rw [h.parse_text_eq] at hfound
  split at hfound
  · cases hfound
  · cases hfound
    rfl

/-- **Normal forms.** A normal form is parsed as what it is made of exactly if the name does not end
    in `.git` any more. -/
theorem Names.parse_text_iff {url : RepoUrl} (h : url.Names) :
    parse url.text = .ok url ↔ ¬ EndsInGit url.repo.toList := by
  rw [← dropGit_eq_self_iff]
  constructor
  · intro hparse
    have hrepo := congrArg (fun u : RepoUrl => u.repo.toList) (h.eq_of_parse_text hparse)
    rw [String.toList_ofList] at hrepo
    exact hrepo.symm
  · intro hname
    rw [h.parse_text_eq, hname, if_neg (not_or.mpr ⟨h.repo_ne_dot, h.repo_ne_dots⟩),
      String.ofList_toList]

end RepoUrl

end PlainScan

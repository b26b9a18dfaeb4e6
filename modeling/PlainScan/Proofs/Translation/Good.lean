import Mathlib.Data.List.Forall2
import PlainScan.Proofs.Json.Equality
import PlainScan.Proofs.Translation.Shown

namespace PlainScan

/-!
# Good candidates

A candidate is good enough if it has three good texts, and no more than four of its fields count.
What is shown of it could have been the candidate, and the same would be shown.

* `goodText?`, `goodField?` — the texts of a candidate that are not blank; `listedTexts` — those
  among its approaches.
* `validateCandidate_eq_some_iff` — what a candidate gives, told by its good texts.
* `TranslatedFinding.ShowsCandidate` — a finding in the words of a candidate.
* `validateCandidate_spec` — which candidates are good enough, and what is shown of them.
-/

/-! ### Good texts -/

/-- The text of a value, if it has a character that is not blank. -/
def goodText? : Json → Option String
  | .str s => if s.toList.any (fun c => !Text.isBlank c) then some s else none
  | _ => none

theorem goodText?_eq_some_iff (value : Json) (text : String) :
    goodText? value = some text
      ↔ value = .str text ∧ ∃ c ∈ text.toList, Text.isBlank c = false := by
  cases value with
  | str s =>
    simp only [goodText?, List.any_eq_true, Bool.not_eq_true', Option.ite_none_right_eq_some,
      Option.some.injEq, Json.str.injEq]
    constructor
    · rintro ⟨h, rfl⟩
      exact ⟨rfl, h⟩
    · rintro ⟨rfl, h⟩
      exact ⟨h, rfl⟩
  | _ => simp [goodText?]

/-- What is shown is shown of good texts. -/
theorem shownText?_eq (value : Json) : shownText? value = (goodText? value).map shownText := by
  cases value with
  | str s =>
    rw [shownText?, goodText?]
    cases hblank : Text.isBlankText s.toList with
    | true =>
      rw [Text.isBlankText, List.all_eq_not_any_not, Bool.not_eq_true'] at hblank
      rw [if_pos rfl, hblank]
      rfl
    | false =>
      rw [Text.isBlankText, List.all_eq_not_any_not, Bool.not_eq_false'] at hblank
      rw [if_neg Bool.false_ne_true, hblank]
      rfl
  | _ => rfl

/-- A text that is not blank is shown. -/
theorem shownText?_str {text : String} (h : Text.isBlankText text.toList = false) :
    shownText? (.str text) = some (shownText text) := by
  have hgood : goodText? (.str text) = some text :=
    (goodText?_eq_some_iff _ _).mpr ⟨rfl, (Text.isBlankText_eq_false_iff _).mp h⟩
  rw [shownText?_eq, hgood, Option.map_some]

/-- The good text of a field. -/
def goodField? (candidate : Json) (key : String) : Option String :=
  (candidate.field? key).bind goodText?

theorem goodField?_eq_some_iff (candidate : Json) (key text : String) :
    goodField? candidate key = some text
      ↔ candidate.field? key = some (.str text) ∧ ∃ c ∈ text.toList, Text.isBlank c = false := by
  simp only [goodField?, Option.bind_eq_some_iff, goodText?_eq_some_iff]
  constructor
  · rintro ⟨value, hfield, rfl, hc⟩
    exact ⟨hfield, hc⟩
  · rintro ⟨hfield, hc⟩
    exact ⟨_, hfield, rfl, hc⟩

/-- What is shown of a field is shown of its good text. -/
theorem shownText?_fieldD (candidate : Json) (key : String) :
    shownText? (candidate.fieldD key) = (goodField? candidate key).map shownText := by
  rw [shownText?_eq, Json.fieldD, goodField?]
  cases candidate.field? key with
  | none => rfl
  | some value => rfl

/-- The good texts that a candidate lists as approaches. -/
def listedTexts (candidate : Json) : List String :=
  match candidate.field? "commonApproaches" with
  | some (.arr items) => items.filterMap goodText?
  | _ => []

/-- The first of the listed texts are shown. -/
theorem approachesOf_eq (candidate : Json) :
    approachesOf candidate
      = match ((listedTexts candidate).take 5).map shownText with
        | [] => none
        | shown => some shown := by
  unfold approachesOf listedTexts
  cases candidate.field? "commonApproaches" with
  | none => rfl
  | some value =>
    cases value with
    | arr items =>
      have hshown : items.filterMap shownText? = (items.filterMap goodText?).map shownText := by
        rw [List.map_filterMap]
        exact congrArg (List.filterMap · items) (funext shownText?_eq)
      rw [List.map_take, ← hshown]
      rfl
    | _ => rfl

/-! ### Candidates -/

/-- A finding in the words of a candidate, if its good texts are these. -/
def TranslatedFinding.inWords (raw : RawFinding) (plain context reflection : String)
    (approaches : Option (List String)) : TranslatedFinding where
  id := raw.id
  panel := raw.panel
  plainLanguage := .str (shownText plain)
  context := shownText context
  importance := raw.severity.importance
  reflection := shownText reflection
  commonApproaches := approaches
  note := none

/-- A good text is a field of an object. -/
theorem isObject_of_goodField? {candidate : Json} {key text : String}
    (h : goodField? candidate key = some text) : candidate.isObject = true :=
  Json.isObject_of_field? ((goodField?_eq_some_iff candidate key text).mp h).1

/-- A candidate gives a finding if its three fields are good, and no finding otherwise. -/
theorem validateCandidate_eq_some_iff (candidate : Json) (raw : RawFinding)
    (f : TranslatedFinding) :
    validateCandidate candidate raw = some f
      ↔ ∃ plain context reflection, goodField? candidate "plainLanguage" = some plain
        ∧ goodField? candidate "context" = some context
        ∧ goodField? candidate "reflection" = some reflection
        ∧ f = .inWords raw plain context reflection (approachesOf candidate) := by
  unfold validateCandidate
  rw [shownText?_fieldD, shownText?_fieldD, shownText?_fieldD]
  constructor
  · intro h
    split at h
    · cases h
    · split at h
      · next hplain hcontext hreflection =>
        obtain ⟨plain, hp, rfl⟩ := Option.map_eq_some_iff.mp hplain
        obtain ⟨context, hc, rfl⟩ := Option.map_eq_some_iff.mp hcontext
        obtain ⟨reflection, hr, rfl⟩ := Option.map_eq_some_iff.mp hreflection
        exact ⟨plain, context, reflection, hp, hc, hr, (Option.some.inj h).symm⟩
      · cases h
  · rintro ⟨plain, context, reflection, hp, hc, hr, rfl⟩
    rw [isObject_of_goodField? hp, hp, hc, hr]
    rfl

/-- A candidate is good enough if and only if its three fields are good. -/
theorem isSome_validateCandidate_iff (candidate : Json) (raw : RawFinding) :
    (validateCandidate candidate raw).isSome = true
      ↔ ∀ key ∈ ["plainLanguage", "context", "reflection"],
          ∃ text, goodField? candidate key = some text := by
  simp only [Option.isSome_iff_exists, validateCandidate_eq_some_iff, List.forall_mem_cons,
    List.not_mem_nil, false_implies, implies_true, and_true]
  constructor
  · rintro ⟨f, plain, context, reflection, hp, hc, hr, -⟩
    exact ⟨⟨plain, hp⟩, ⟨context, hc⟩, ⟨reflection, hr⟩⟩
  · rintro ⟨⟨plain, hp⟩, ⟨context, hc⟩, ⟨reflection, hr⟩⟩
    exact ⟨_, plain, context, reflection, hp, hc, hr, rfl⟩

/-- Candidates that agree on four fields give the same finding. -/
theorem validateCandidate_congr {candidate other : Json} (raw : RawFinding)
    (h : ∀ key ∈ ["plainLanguage", "context", "reflection", "commonApproaches"],
      other.field? key = candidate.field? key) :
    validateCandidate other raw = validateCandidate candidate raw := by
  have hgood : ∀ key ∈ ["plainLanguage", "context", "reflection"],
      goodField? other key = goodField? candidate key := by
    intro key hkey
    rw [goodField?, h key (List.mem_append_left ["commonApproaches"] hkey), goodField?]
  have happroaches : approachesOf other = approachesOf candidate := by
    rw [approachesOf, h "commonApproaches" (by simp), approachesOf]
  apply Option.ext
  intro f
  rw [validateCandidate_eq_some_iff, validateCandidate_eq_some_iff, hgood "plainLanguage" (by simp),
    hgood "context" (by simp), hgood "reflection" (by simp), happroaches]

/-! ### What is shown -/

/-- A finding in the words of a candidate: three texts are shown for those of the candidate, and up
    to five of the good texts that it lists, the first ones.  All else is as in the raw finding. -/
structure TranslatedFinding.ShowsCandidate (f : TranslatedFinding) (candidate : Json)
    (raw : RawFinding) : Prop where
  id_eq : f.id = raw.id
  panel_eq : f.panel = raw.panel
  importance_eq : f.importance = raw.severity.importance
  note_eq : f.note = none
  plainLanguage : ∃ shown source, f.plainLanguage = .str shown
    ∧ candidate.field? "plainLanguage" = some (.str source) ∧ Shows shown source
  context : ∃ source, candidate.field? "context" = some (.str source) ∧ Shows f.context source
  reflection : ∃ source, candidate.field? "reflection" = some (.str source)
    ∧ Shows f.reflection source
  approaches : f.commonApproaches = none ∧ listedTexts candidate = []
    ∨ ∃ shown, f.commonApproaches = some shown ∧ 1 ≤ shown.length ∧ shown.length ≤ 5
      ∧ List.Forall₂ Shows shown ((listedTexts candidate).take 5)

/-- The listed texts are good. -/
theorem exists_of_mem_listedTexts {candidate : Json} {text : String}
    (h : text ∈ listedTexts candidate) : ∃ c ∈ text.toList, Text.isBlank c = false := by
  unfold listedTexts at h
  split at h
  · obtain ⟨value, -, hgood⟩ := List.mem_filterMap.mp h
    exact ((goodText?_eq_some_iff value text).mp hgood).2
  · cases h

/-- The first of the listed texts are shown one by one. -/
theorem forall₂_shows_listedTexts (candidate : Json) :
    List.Forall₂ Shows (((listedTexts candidate).take 5).map shownText)
      ((listedTexts candidate).take 5) := by
  rw [List.forall₂_map_left_iff, List.forall₂_same]
  intro text htext
  exact shows_shownText (exists_of_mem_listedTexts (List.mem_of_mem_take htext))

/-- There are no approaches, or there are up to five. -/
theorem approachesOf_spec (candidate : Json) :
    approachesOf candidate = none ∧ listedTexts candidate = []
      ∨ ∃ shown, approachesOf candidate = some shown ∧ 1 ≤ shown.length ∧ shown.length ≤ 5
        ∧ List.Forall₂ Shows shown ((listedTexts candidate).take 5) := by
  have hshown := forall₂_shows_listedTexts candidate
  rw [approachesOf_eq]
  -- the first five are none only if none is listed
  cases htake : (listedTexts candidate).take 5 with
  | nil =>
    have hlisted : listedTexts candidate = [] := by
      rcases List.take_eq_nil_iff.mp htake with hfive | hnil
      · cases hfive
      · exact hnil
    exact .inl ⟨rfl, hlisted⟩
  | cons text rest =>
    rw [htake] at hshown
    have hlength : (text :: rest).length ≤ 5 := by
      rw [← htake]
      exact List.length_take_le 5 _
    refine .inr ⟨_, rfl, ?_, ?_, hshown⟩
    · exact Nat.succ_le_succ (Nat.zero_le _)
    · rw [List.length_map]
      exact hlength

/-- What a candidate gives shows it. -/
theorem showsCandidate_of_validateCandidate {candidate : Json} {raw : RawFinding}
    {f : TranslatedFinding} (h : validateCandidate candidate raw = some f) :
    f.ShowsCandidate candidate raw := by
  obtain ⟨plain, context, reflection, hp, hc, hr, rfl⟩ :=
    (validateCandidate_eq_some_iff _ _ _).mp h
  rw [goodField?_eq_some_iff] at hp hc hr
  exact
    { id_eq := rfl
      panel_eq := rfl
      importance_eq := rfl
      note_eq := rfl
      plainLanguage := ⟨_, plain, rfl, hp.1, shows_shownText hp.2⟩
      context := ⟨context, hc.1, shows_shownText hc.2⟩
      reflection := ⟨reflection, hr.1, shows_shownText hr.2⟩
      approaches := approachesOf_spec candidate }

/-! ### The same again -/

/-- The written form of a finding in the words of a candidate lists its approaches. -/
theorem field?_toJson_commonApproaches (f : TranslatedFinding) :
    f.toJson.field? "commonApproaches" = f.commonApproaches.map Json.ofStrings := by
  cases f with
  | mk id panel plain context importance reflection approaches note =>
    cases approaches with
    | none =>
      cases note with
      | none => rfl
      | some text => rfl
    | some shown => rfl

/-- A text that is shown for another one is good. -/
theorem Shows.goodText?_eq {shown source : String} (h : Shows shown source) :
    goodText? (.str shown) = some shown :=
  (goodText?_eq_some_iff _ _).mpr ⟨rfl, h.not_blank⟩

/-- The approaches of a finding in the words of a candidate are approaches of its written form. -/
theorem approachesOf_toJson {f : TranslatedFinding} {candidate : Json} {raw : RawFinding}
    (h : f.ShowsCandidate candidate raw) : approachesOf f.toJson = f.commonApproaches := by
  rw [approachesOf_eq, listedTexts, field?_toJson_commonApproaches]
  rcases h.approaches with ⟨hnone, -⟩ | ⟨shown, hsome, hone, hfive, hshows⟩
  · rw [hnone]
    rfl
  · have hgood : ∀ text ∈ shown, goodText? (.str text) = some text ∧ shownText text = text :=
      ((List.forall₂_and_left _ _).mp
        (hshows.imp fun _ _ h => ⟨⟨h.goodText?_eq, h.shownText_eq⟩, h⟩)).1
    -- what was shown is listed again as a whole, and shown as it is
    have hlisted : (shown.map Json.str).filterMap goodText? = shown := by
      rw [List.filterMap_map, List.filterMap_congr (g := some), List.filterMap_some]
      exact fun text htext => (hgood text htext).1
    rw [hsome]
    simp only [Option.map_some, Json.ofStrings, hlisted, List.take_of_length_le hfive]
    rw [List.map_congr_left fun text htext => (hgood text htext).2, List.map_id']
    cases shown with
    | nil => cases hone
    | cons text rest => rfl

/-- A finding in the words of a candidate is what its written form gives. -/
theorem validateCandidate_toJson {f : TranslatedFinding} {candidate : Json} {raw : RawFinding}
    (h : f.ShowsCandidate candidate raw) : validateCandidate f.toJson raw = some f := by
  obtain ⟨plain, _, hplain, -, hp⟩ := h.plainLanguage
  obtain ⟨_, -, hc⟩ := h.context
  obtain ⟨_, -, hr⟩ := h.reflection
  rw [validateCandidate_eq_some_iff]
  refine ⟨plain, f.context, f.reflection, ?_, hc.goodText?_eq, hr.goodText?_eq, ?_⟩
  · rw [← hp.goodText?_eq, ← hplain]
    rfl
  · rw [TranslatedFinding.inWords, hp.shownText_eq, hc.shownText_eq, hr.shownText_eq,
      approachesOf_toJson h, ← hplain, ← h.id_eq, ← h.panel_eq, ← h.importance_eq, ← h.note_eq]

/-- **Good candidates.** A candidate is good enough if and only if it is an object with three fields
    that are texts and not blank.  The finding it gives shows these texts and the first of its
    approaches, each without the blanks at its ends and cut where it is too long, and the written
    form of this finding gives it again.  No other field of a candidate counts. -/
theorem validateCandidate_spec (candidate : Json) (raw : RawFinding) :
    ((validateCandidate candidate raw).isSome = true
        ↔ candidate.isObject = true
          ∧ ∀ key ∈ ["plainLanguage", "context", "reflection"], ∃ text,
              candidate.field? key = some (.str text)
                ∧ ∃ c ∈ text.toList, Text.isBlank c = false)
      ∧ (∀ f, validateCandidate candidate raw = some f →
          f.ShowsCandidate candidate raw ∧ validateCandidate f.toJson raw = some f)
      ∧ ∀ other : Json,
          (∀ key ∈ ["plainLanguage", "context", "reflection", "commonApproaches"],
            other.field? key = candidate.field? key) →
          validateCandidate other raw = validateCandidate candidate raw := by
  refine ⟨?_, ?_, ?_⟩
  · rw [isSome_validateCandidate_iff]
    simp only [← goodField?_eq_some_iff]
    constructor
    · intro h
      obtain ⟨text, htext⟩ := h "plainLanguage" List.mem_cons_self
      exact ⟨isObject_of_goodField? htext, h⟩
    · exact And.right
  · intro f hf
    have hshows := showsCandidate_of_validateCandidate hf
    exact ⟨hshows, validateCandidate_toJson hshows⟩
  · intro other h
    exact validateCandidate_congr raw h

/-- A finding about a line. -/
def plainFinding : RawFinding :=
  { id := "a", panel := .secrets, tool := "test", severity := .high, message := .str "m" }

/-- A candidate with another identifier, with blanks at the ends of a text and with approaches of
    which two are good. -/
def wordyCandidate : Json :=
  .obj [("id", .str "b"), ("plainLanguage", .str " P\n"), ("context", .str "C"),
    ("reflection", .str "R"),
    ("commonApproaches", .arr [.str "one", .str " ", .int 3, .str "two "])]

/-- Its texts are shown without the blanks, and the identifier is that of the finding. -/
theorem validateCandidate_spec_wordy :
    ∃ f, validateCandidate wordyCandidate plainFinding = some f
      ∧ f.id = "a" ∧ f.plainLanguage = .str "P" ∧ f.commonApproaches = some ["one", "two"]
      ∧ f.ShowsCandidate wordyCandidate plainFinding
      ∧ validateCandidate f.toJson plainFinding = some f := by
  have hsome : (validateCandidate wordyCandidate plainFinding).isSome = true := by decide +kernel
  obtain ⟨f, hf⟩ := Option.isSome_iff_exists.mp hsome
  obtain ⟨-, hshows, -⟩ := validateCandidate_spec wordyCandidate plainFinding
  have hread : (validateCandidate wordyCandidate plainFinding).map
      (fun f => (f.id, f.plainLanguage, f.commonApproaches))
      = some ("a", .str "P", some ["one", "two"]) := by decide +kernel
  rw [hf, Option.map_some, Option.some.injEq, Prod.mk.injEq, Prod.mk.injEq] at hread
  exact ⟨f, hf, hread.1, hread.2.1, hread.2.2, (hshows f hf).1, (hshows f hf).2⟩

end PlainScan

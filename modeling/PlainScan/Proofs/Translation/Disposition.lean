import Mathlib.Data.List.Forall2
import PlainScan.Translation.Basic

namespace PlainScan

/-!
# What becomes of a finding

Every finding of a panel ends in one of two ways: the model has words for it, or it is shown as it
was with a note.

* `offered` — the candidates that there are for a panel, whatever the model did; `Readable` — the
  reply for it stays within the limits of the reader.
* `StandsFor` — how a shown finding is related to the raw one in its place.
* `untranslated` — the findings for which nothing offered is good enough.
* `Json.isShowable` — the messages that can be shown in place of a translation.
* `translatePanel_findings` — a translation is one choice for each finding, however it came about.
* `exists_translatePanel_iff` — when there is a translation at all.
-/

/-! ### Messages that can be shown -/

/-- Whether a message can be shown in place of a translation.  A text always can; an array or an
    object has a length as well, but cannot be cut where it is too long. -/
def Json.isShowable : Json → Bool
  | .str _ => true
  | .arr items => decide (items.length ≤ textLimit)
  | .obj fields => decide (fields.length ≤ textLimit)
  | _ => false

/-- A message is trimmed exactly if it can be shown. -/
theorem exists_trimMessage_iff (message : Json) :
    (∃ shown, trimMessage message = .ok shown) ↔ message.isShowable = true := by
  cases message with
  | str s => simp [trimMessage, Json.isShowable]
  | arr items => by_cases h : items.length ≤ textLimit <;> simp [trimMessage, Json.isShowable, h]
  | obj fields => by_cases h : fields.length ≤ textLimit <;> simp [trimMessage, Json.isShowable, h]
  | _ => simp [trimMessage, Json.isShowable]

/-- A finding can be shown as it is exactly if its message can be. -/
theorem exists_fallback_iff (raw : RawFinding) (note : String) :
    (∃ f, fallback raw note = .ok f) ↔ raw.message.isShowable = true := by
  rw [← exists_trimMessage_iff]
  cases h : trimMessage raw.message <;> simp [fallback, h]

/-! ### Shown findings and raw ones -/

/-- A shown finding is about the raw one: it has its identifier and its panel, and the importance
    of its severity. -/
structure TranslatedFinding.IsAbout (f : TranslatedFinding) (raw : RawFinding) : Prop where
  id_eq : f.id = raw.id
  panel_eq : f.panel = raw.panel
  importance_eq : f.importance = raw.severity.importance

/-- The finding as it is stays about itself, and carries the note. -/
theorem isAbout_of_fallback {raw : RawFinding} {note : String} {f : TranslatedFinding}
    (h : fallback raw note = .ok f) : f.IsAbout raw ∧ f.note = some note := by
  unfold fallback at h
  split at h
  · cases h
  · cases h
    exact ⟨⟨rfl, rfl, rfl⟩, rfl⟩

/-- A good candidate is about the finding it was given to, and carries no note. -/
theorem isAbout_of_validateCandidate {candidate : Json} {raw : RawFinding} {f : TranslatedFinding}
    (h : validateCandidate candidate raw = some f) : f.IsAbout raw ∧ f.note = none := by
  unfold validateCandidate at h
  split at h
  · cases h
  · split at h
    · cases h
      exact ⟨⟨rfl, rfl, rfl⟩, rfl⟩
    · cases h

/-- How a shown finding stands for the raw one in its place, given the candidates there were:
    either one of them is good enough and says it, or the finding is shown as it is with a note. -/
structure StandsFor (candidates : List Json) (raw : RawFinding) (f : TranslatedFinding) : Prop
    extends f.IsAbout raw where
  disposition :
    (f.note = none ∧ ∃ candidate ∈ candidates, validateCandidate candidate raw = some f) ∨
      ∃ note, f.note = some note ∧ fallback raw note = .ok f

/-! ### Findings one by one -/

/-- A translation of several findings is a translation of each of them in its place. -/
theorem mapFindings_eq_ok_iff {translate : α → Except Crash TranslatedFinding} {xs : List α}
    {fs : List TranslatedFinding} :
    mapFindings translate xs = .ok fs ↔ List.Forall₂ (fun x f => translate x = .ok f) xs fs := by
  induction xs generalizing fs with
  | nil =>
    rw [mapFindings, List.forall₂_nil_left_iff, Except.ok.injEq]
    exact eq_comm
  | cons x rest ih =>
    rw [mapFindings, List.forall₂_cons_left_iff]
    -- the first one fails, or one further on, or none does
    cases hx : translate x with
    | error crash => simp
    | ok here =>
      cases hrest : mapFindings translate rest with
      | error crash =>
        simp only [reduceCtorEq, false_iff]
        rintro ⟨f, more, -, hmore, -⟩
        rw [ih.mpr hmore] at hrest
        cases hrest
      | ok more =>
        simp only [Except.ok.injEq]
        constructor
        · rintro rfl
          exact ⟨here, more, rfl, ih.mp hrest, rfl⟩
        · rintro ⟨f, more', rfl, hmore, rfl⟩
          rw [ih.mpr hmore, Except.ok.injEq] at hrest
          rw [hrest]

/-- Several findings can be translated if each of them can. -/
theorem exists_mapFindings_iff {translate : α → Except Crash TranslatedFinding} {xs : List α} :
    (∃ fs, mapFindings translate xs = .ok fs) ↔ ∀ x ∈ xs, ∃ f, translate x = .ok f := by
  simp only [mapFindings_eq_ok_iff]
  induction xs with
  | nil => simp
  | cons x rest ih =>
    rw [List.forall_mem_cons, ← ih]
    constructor
    · rintro ⟨fs, h⟩
      obtain ⟨f, more, hf, hmore, rfl⟩ := List.forall₂_cons_left_iff.mp h
      exact ⟨⟨f, hf⟩, more, hmore⟩
    · rintro ⟨⟨f, hf⟩, more, hmore⟩
      exact ⟨f :: more, .cons hf hmore⟩

/-- Each translation in a list is that of some finding. -/
theorem exists_of_mem_mapFindings {translate : α → Except Crash TranslatedFinding} {xs : List α}
    {fs : List TranslatedFinding} {f : TranslatedFinding} (h : mapFindings translate xs = .ok fs)
    (hf : f ∈ fs) : ∃ x ∈ xs, translate x = .ok f := by
  have hall := mapFindings_eq_ok_iff.mp h
  clear h
  induction hall with
  | nil => exact absurd hf List.not_mem_nil
  | @cons x g rest more hx _ ih =>
    rcases List.mem_cons.mp hf with rfl | hf
    · exact ⟨x, List.mem_cons_self, hx⟩
    · obtain ⟨y, hy, hyf⟩ := ih hf
      exact ⟨y, List.mem_cons_of_mem x hy, hyf⟩

/-- Translating images is translating by way of them. -/
theorem mapFindings_map (translate : β → Except Crash TranslatedFinding) (g : α → β)
    (xs : List α) :
    mapFindings translate (xs.map g) = mapFindings (fun x => translate (g x)) xs := by
  induction xs with
  | nil => rfl
  | cons x rest ih => rw [List.map_cons, mapFindings, mapFindings, ih]

/-! ### Candidates -/

/-- The candidates for a panel.  Without a model or a readable reply there are none. -/
def offered (access : ModelAccess) (reply : ModelReply) : List Json :=
  if access = .none then []
  else
    match reply.text with
    | .ok text => (candidatesOf text).toOption.getD []
    | .error _ => []

/-- The reader of JSON texts does not stop a translation: either no model is asked, or the reply, if
    it has a text, is read within the limits. -/
def Readable (access : ModelAccess) (reply : ModelReply) : Prop :=
  access = .none ∨ ∀ text, reply.text = .ok text → ∃ found, candidatesOf text = .ok found

/-- What is noted on a finding that nothing good was offered for. -/
def noteFor (access : ModelAccess) (reply : ModelReply) : String :=
  if access = .none then failureNote .missingKey
  else
    match reply.text with
    | .ok _ => unusableNote
    | .error reason => failureNote reason

/-- The findings that are kept, each with the candidate it is given. -/
def offers (config : Config) (access : ModelAccess) (reply : ModelReply)
    (findings : List RawFinding) : List (RawFinding × Option Json) :=
  let capped := (keepGravest findings config.maxFindingsPerPanel).findings
  capped.zip (candidatesFor (capped.map RawFinding.id) (offered access reply))

/-- The candidate that a finding was given, if it is good enough, as the finding to be shown. -/
def rewrite? (offer : RawFinding × Option Json) : Option TranslatedFinding :=
  offer.2.bind fun candidate => validateCandidate candidate offer.1

/-- The findings that are kept and for which nothing good is offered. -/
def untranslated (config : Config) (access : ModelAccess) (reply : ModelReply)
    (findings : List RawFinding) : List RawFinding :=
  ((offers config access reply findings).filter fun offer => (rewrite? offer).isNone).map Prod.fst

/-- A finding in words of the model, or else as it was with a note. -/
def settle (note : String) (offer : RawFinding × Option Json) : Except Crash TranslatedFinding :=
  match rewrite? offer with
  | some translated => .ok translated
  | none => fallback offer.1 note

theorem translateOne_eq_settle : translateOne = settle unusableNote := rfl

/-- A candidate that is given to a finding is one of those on offer. -/
theorem mem_of_some_mem_candidatesFor {ids : List String} {candidates : List Json} {c : Json}
    (h : some c ∈ candidatesFor ids candidates) : c ∈ candidates := by
  obtain ⟨place?, -, h⟩ := List.mem_map.mp h
  obtain ⟨place, -, hat⟩ := Option.bind_eq_some_iff.mp h
  exact List.mem_of_getElem? hat

/-- Where nothing is offered, no finding is given anything. -/
theorem candidatesFor_nil (ids : List String) :
    candidatesFor ids [] = List.replicate ids.length none := by
  refine List.eq_replicate_iff.mpr ⟨length_candidatesFor ids [], ?_⟩
  intro given hgiven
  cases given with
  | none => rfl
  | some c => exact absurd (mem_of_some_mem_candidatesFor hgiven) List.not_mem_nil

/-- The findings that are kept are those with an offer. -/
theorem offers_map_fst (config : Config) (access : ModelAccess) (reply : ModelReply)
    (findings : List RawFinding) :
    (offers config access reply findings).map Prod.fst
      = (keepGravest findings config.maxFindingsPerPanel).findings := by
  apply List.map_fst_zip
  simp only [length_candidatesFor, List.length_map, Nat.le_refl]

/-- Where nothing is offered, every finding is shown as it was. -/
theorem mapFindings_settle_of_nothing (findings : List RawFinding) (note : String) :
    mapFindings (settle note)
        (findings.zip (candidatesFor (findings.map RawFinding.id) []))
      = mapFindings (fun raw => fallback raw note) findings := by
  have hzip : findings.zip (candidatesFor (findings.map RawFinding.id) [])
      = findings.map fun raw => (raw, none) := by
    rw [candidatesFor_nil, List.length_map]
    induction findings with
    | nil => rfl
    | cons raw rest ih => simpa [List.replicate_succ] using ih
  rw [hzip, mapFindings_map]
  rfl

/-- **One choice for each finding.** However a translation comes about, its findings are those that
    are kept, each settled with its offer. -/
theorem translatePanel_findings (config : Config) {access : ModelAccess}
    {model : Panel → ModelReply} {panel : Panel} {findings : List RawFinding}
    (hread : findings = [] ∨ Readable access (model panel)) :
    (translatePanel config access model panel findings).result.map PanelTranslation.findings
      = mapFindings (settle (noteFor access (model panel)))
          (offers config access (model panel) findings) := by
  unfold translatePanel offers offered noteFor
  by_cases hempty : findings.isEmpty = true
  · rw [if_pos hempty, List.isEmpty_iff.mp hempty]
    rfl
  · -- the ways to a translation, each of which settles the same offers
    have hread := hread.resolve_left fun hnil => hempty (List.isEmpty_iff.mpr hnil)
    rw [if_neg hempty]
    by_cases haccess : access = .none
    · simp only [haccess, if_true, translateWithout, mapFindings_settle_of_nothing]
      cases mapFindings _ _ <;> rfl
    · simp only [haccess, if_false]
      cases htext : (model panel).text with
      | ok text =>
        obtain ⟨found, hfound⟩ := hread.resolve_left haccess text htext
        simp only [translateWith, hfound, translateBy, translateOne_eq_settle, Except.toOption,
          Option.getD_some]
        cases mapFindings _ _ <;> rfl
      | error reason =>
        simp only [translateWithout, mapFindings_settle_of_nothing]
        cases mapFindings _ _ <;> rfl

/-- A translation of findings comes about only where the reader does not stop it. -/
theorem readable_of_translatePanel {config : Config} {access : ModelAccess}
    {model : Panel → ModelReply} {panel : Panel} {findings : List RawFinding}
    {t : PanelTranslation}
    (h : (translatePanel config access model panel findings).result = .ok t) :
    findings = [] ∨ Readable access (model panel) := by
  by_cases hempty : findings = []
  · exact .inl hempty
  · refine .inr (Classical.or_iff_not_imp_left.mpr fun haccess text htext => ?_)
    cases hfound : candidatesOf text with
    | ok found => exact ⟨found, rfl⟩
    | error limit =>
      simp [translatePanel, translateWith, hempty, haccess, htext, hfound] at h

/-- Each of the ways to a translation notes the panel that it was given. -/
theorem panel_of_translateWithout {panel : Panel} {capped : CappedFindings}
    {reason : TranslationFailure} {t : PanelTranslation}
    (h : translateWithout panel capped reason = .ok t) : t.panel = panel := by
  unfold translateWithout at h
  split at h <;> cases h
  rfl

theorem panel_of_translateBy {panel : Panel} {capped : CappedFindings} {candidates : List Json}
    {t : PanelTranslation} (h : translateBy panel capped candidates = .ok t) : t.panel = panel := by
  unfold translateBy at h
  dsimp only at h
  split at h <;> cases h
  rfl

theorem panel_of_translateWith {panel : Panel} {capped : CappedFindings} {text : List Char}
    {t : PanelTranslation} (h : translateWith panel capped text = .ok t) : t.panel = panel := by
  unfold translateWith at h
  split at h
  · exact panel_of_translateBy h
  · cases h

/-- A translation is for the panel that was asked for. -/
theorem panel_of_translatePanel {config : Config} {access : ModelAccess}
    {model : Panel → ModelReply} {panel : Panel} {findings : List RawFinding}
    {t : PanelTranslation}
    (h : (translatePanel config access model panel findings).result = .ok t) : t.panel = panel := by
  unfold translatePanel at h
  dsimp only at h
  split at h
  · -- nothing to translate
    cases h
    rfl
  · split at h
    · exact panel_of_translateWithout h
    · split at h
      · exact panel_of_translateWith h
      · exact panel_of_translateWithout h

/-- A finding is settled unless it would have to be shown as it was and cannot be. -/
theorem exists_settle_iff (note : String) (offer : RawFinding × Option Json) :
    (∃ f, settle note offer = .ok f)
      ↔ (rewrite? offer = none → offer.1.message.isShowable = true) := by
  unfold settle
  cases rewrite? offer with
  | some translated => simp
  | none => simp [exists_fallback_iff]

/-- **When a panel is translated.** A translation comes about, complete or not, exactly if the
    reader does not stop it and every finding without a good offer has a message that can be shown.
    -/
theorem exists_translatePanel_iff (config : Config) (access : ModelAccess)
    (model : Panel → ModelReply) (panel : Panel) (findings : List RawFinding) :
    (∃ t, (translatePanel config access model panel findings).result = .ok t)
      ↔ (findings = [] ∨ Readable access (model panel))
        ∧ ∀ f ∈ untranslated config access (model panel) findings,
            f.message.isShowable = true := by
  by_cases hread : findings = [] ∨ Readable access (model panel)
  · have hmap := translatePanel_findings config hread
    -- only the findings of a translation can stop it now
    have hsettled : (∃ t, (translatePanel config access model panel findings).result = .ok t)
        ↔ ∃ fs, mapFindings (settle (noteFor access (model panel)))
            (offers config access (model panel) findings) = .ok fs := by
      rw [← hmap]
      cases (translatePanel config access model panel findings).result <;> simp [Except.map]
    rw [hsettled, exists_mapFindings_iff, and_iff_right hread]
    simp only [exists_settle_iff, untranslated, List.mem_map, List.mem_filter,
      Option.isNone_iff_eq_none]
    constructor
    · rintro h f ⟨offer, ⟨hoffer, hnone⟩, rfl⟩
      exact h offer hoffer hnone
    · intro h offer hoffer hnone
      exact h offer.1 ⟨offer, ⟨hoffer, hnone⟩, rfl⟩
  · refine ⟨?_, fun h => absurd h.1 hread⟩
    rintro ⟨t, ht⟩
    exact absurd (readable_of_translatePanel ht) hread

end PlainScan

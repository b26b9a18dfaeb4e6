import PlainScan.Proofs.Analysis.Issues
import PlainScan.Proofs.Translation.Accounts

namespace PlainScan

/-!
# Which issues are dropped

Issues are dropped twice: by an analyzer as it meets them, and by the translation, which keeps the
gravest.  Both keep the same number, so the second never drops anything.

* `PrefersSeverity` — no issue is dropped that is graver than one that is shown.
* `prefersSeverity_iff_of_forall₂` — the same, said of the findings that are stood for.
* `Analyzer.prefersSeverity_iff` — when this holds of an analyzer together with the translation.
* `not_prefersSeverity_of_later` — it fails where the graver issue comes later.
-/

/-! ### Preference -/

/-- A shown finding is presented as at least as grave as an issue. -/
def TranslatedFinding.Outweighs (f : TranslatedFinding) (issue : RawFinding) : Prop :=
  ∃ severity : Severity, f.importance = severity.importance ∧ issue.severity ≤ severity

/-- If an issue is not shown, none that is shown is less grave. -/
def PrefersSeverity (issues : List RawFinding) (shown : List TranslatedFinding) : Prop :=
  ∀ issue ∈ issues, (∀ f ∈ shown, f.id ≠ issue.id) → ∀ f ∈ shown, f.Outweighs issue

/-- The importance tells the severity. -/
theorem Severity.importance_injective {a b : Severity} (h : a.importance = b.importance) :
    a = b := by
  cases a <;> cases b <;> first | rfl | cases h

/-- What is shown outweighs an issue exactly if the finding that it stands for is as grave. -/
theorem outweighs_iff {candidates : List Json} {raw issue : RawFinding} {f : TranslatedFinding}
    (h : StandsFor candidates raw f) : f.Outweighs issue ↔ issue.severity ≤ raw.severity := by
  constructor
  · rintro ⟨severity, himportance, hle⟩
    rw [h.importance_eq] at himportance
    rw [Severity.importance_injective himportance]
    exact hle
  · intro hle
    exact ⟨raw.severity, h.importance_eq, hle⟩

/-- What holds of each finding holds of what stands for it. -/
theorem forall_mem_iff_of_forall₂ {R : α → β → Prop} {p : α → Prop} {q : β → Prop}
    (hpq : ∀ a b, R a b → (p a ↔ q b)) {as : List α} {bs : List β} (h : List.Forall₂ R as bs) :
    (∀ a ∈ as, p a) ↔ ∀ b ∈ bs, q b := by
  induction h with
  | nil => simp
  | cons hfirst _ ih => rw [List.forall_mem_cons, List.forall_mem_cons, ih, hpq _ _ hfirst]

/-- Severity is preferred among what is shown exactly if it is among the findings that are stood
    for. -/
theorem prefersSeverity_iff_of_forall₂ {candidates : List Json} {kept : List RawFinding}
    {shown : List TranslatedFinding} (h : List.Forall₂ (StandsFor candidates) kept shown)
    (issues : List RawFinding) :
    PrefersSeverity issues shown ↔
      ∀ issue ∈ issues, (∀ f ∈ kept, f.id ≠ issue.id) →
        ∀ f ∈ kept, issue.severity ≤ f.severity := by
  apply forall₂_congr
  intro issue _
  have hdropped : (∀ f ∈ kept, f.id ≠ issue.id) ↔ ∀ f ∈ shown, f.id ≠ issue.id := by
    refine forall_mem_iff_of_forall₂ ?_ h
    intro raw f hf
    rw [hf.id_eq]
  have hgrave : (∀ f ∈ kept, issue.severity ≤ f.severity) ↔ ∀ f ∈ shown, f.Outweighs issue := by
    refine forall_mem_iff_of_forall₂ ?_ h
    intro raw f hf
    exact (outweighs_iff hf).symm
  rw [hdropped, hgrave]

/-! ### Analyzer and translation -/

/-- What an analyzer shows passes through the translation without loss. -/
theorem Analyzer.forall₂_standsFor_run {config : Config} {area : WorkingArea} {tools : Tools}
    {timeout : Number} {a : Analyzer} {access : ModelAccess} {model : Panel → ModelReply}
    {panel : Panel} {t : PanelTranslation}
    (h : (translatePanel config access model panel
      (a.run config area tools timeout).findings).result = .ok t) :
    List.Forall₂ (StandsFor (offered access (model panel)))
      ((firstById (a.issues config area tools timeout)).take config.maxFindingsPerPanel)
      t.findings := by
  have hall := forall₂_standsFor h
  -- an analyzer never shows more findings than a translation keeps
  rw [(a.run_keeps config area tools timeout).findings_eq] at hall
  rwa [keepGravest_of_le (List.length_take_le _ _)] at hall

/-- **When severity is preferred.** After an analyzer has run and its findings are translated, no
    issue is missing that is graver than one that is shown, exactly if none is met after the first
    distinct ones, as many as are kept, that is graver than one of those. -/
theorem Analyzer.prefersSeverity_iff {config : Config} {area : WorkingArea} {tools : Tools}
    {timeout : Number} {a : Analyzer} {access : ModelAccess} {model : Panel → ModelReply}
    {t : PanelTranslation}
    (h : (translatePanel config access model a.info.panel
      (a.run config area tools timeout).findings).result = .ok t) :
    PrefersSeverity (a.issues config area tools timeout) t.findings ↔
      ∀ issue ∈ a.issues config area tools timeout,
        (∀ f ∈ (firstById (a.issues config area tools timeout)).take config.maxFindingsPerPanel,
          f.id ≠ issue.id) →
        ∀ f ∈ (firstById (a.issues config area tools timeout)).take config.maxFindingsPerPanel,
          issue.severity ≤ f.severity :=
  prefersSeverity_iff_of_forall₂ (forall₂_standsFor_run h) _

/-! ### Two messages of the linter -/

/-- The linter reports two messages on lines of their own, with levels that are given as they are
    spelled. -/
def levelTools (first second : String) : Tools :=
  { lint := .finished
      { stdout := "[\x7b\"filePath\":\"a.js\",\"messages\":[\x7b\"line\":1,\"severity\":" ++ first
          ++ "\x7d,\x7b\"line\":2,\"severity\":" ++ second ++ "\x7d]\x7d]"
        stderr := ""
        exitCode := 1 }
    audit := .timedOut }

/-- A working area without files. -/
def bareArea : WorkingArea := ⟨⟨"/", ["area"]⟩, ⟨"/", ["area"]⟩, some []⟩

/-- The linter is run on it by settings under which one finding is shown. -/
abbrev levelRun (first second : String) : Analysis :=
  Analyzer.lint.run oneShown bareArea (levelTools first second) oneShown.lintTimeout

/-- The translation of what it shows, without a model. -/
abbrev levelTranslation (first second : String) : TranslationRun :=
  translatePanel oneShown .none (fun _ => .broken) Analyzer.lint.info.panel
    (levelRun first second).findings

/-- Both messages of the linter. -/
abbrev levelIssues (first second : String) : List RawFinding :=
  Analyzer.lint.issues oneShown bareArea (levelTools first second) oneShown.lintTimeout

/-- Where the graver issue comes first, the other one is dropped. -/
theorem prefersSeverity_of_earlier :
    ∃ t, (levelTranslation "2" "1").result = .ok t
      ∧ PrefersSeverity (levelIssues "2" "1") t.findings := by
  obtain ⟨t, ht⟩ : ∃ t, (levelTranslation "2" "1").result = .ok t := by
    refine (exists_translatePanel_iff _ _ _ _ _).mpr ⟨.inr (.inl rfl), ?_⟩
    rw [← List.all_eq_true]
    decide +kernel
  refine ⟨t, ht, (Analyzer.prefersSeverity_iff ht).mpr ?_⟩
  decide +kernel

/-- Where the graver issue comes later, it is dropped. -/
theorem not_prefersSeverity_of_later :
    ∃ t, (levelTranslation "1" "2").result = .ok t
      ∧ ¬ PrefersSeverity (levelIssues "1" "2") t.findings := by
  obtain ⟨t, ht⟩ : ∃ t, (levelTranslation "1" "2").result = .ok t := by
    refine (exists_translatePanel_iff _ _ _ _ _).mpr ⟨.inr (.inl rfl), ?_⟩
    rw [← List.all_eq_true]
    decide +kernel
  refine ⟨t, ht, ?_⟩
  rw [prefersSeverity_iff_of_forall₂ (Analyzer.forall₂_standsFor_run ht)]
  decide +kernel

end PlainScan

import PlainScan.Proofs.Json.Equality
import PlainScan.Proofs.Translation.Disposition

namespace PlainScan

/-!
# What a translation accounts for

* `PanelTranslation.Accounts` — a translation accounts for the findings of a panel: each kept one
  is there in its place, and status, reason and counts follow from how many the model had words for.
* `translatePanel_accounts` — whatever the model does, the translation of findings with textual
  messages accounts for them, and what does not depend on words does not depend on the model.
-/

/-- The part of a shown finding that no model has a say in. -/
def TranslatedFinding.outline (f : TranslatedFinding) : String × Panel × Importance :=
  (f.id, f.panel, f.importance)

/-- A translation accounts for the findings of a panel, of which at most `limit` are kept, given the
    candidates that were offered. -/
structure PanelTranslation.Accounts (t : PanelTranslation) (panel : Panel) (limit : Nat)
    (candidates : List Json) (findings : List RawFinding) : Prop where
  panel_eq : t.panel = panel
  findings_forall₂ :
    List.Forall₂ (StandsFor candidates) (keepGravest findings limit).findings t.findings
  translatedCount_eq : t.translatedCount = t.findings.countP fun f => f.note.isNone
  success_iff : t.status = .success ↔ t.translatedCount = t.findings.length
  failed_iff : t.status = .failed ↔ findings ≠ [] ∧ t.translatedCount = 0
  incomplete_iff :
    t.status = .incomplete ↔ 0 < t.translatedCount ∧ t.translatedCount < t.findings.length
  reason_eq_none_iff : t.reason = none ↔ t.status = .success
  countBefore_eq : t.countBefore = findings.length
  truncated_iff : t.truncated = true ↔ limit < findings.length

/-! ### What is kept -/

/-- The count before the cap is that of all findings. -/
theorem countBefore_keepGravest (findings : List RawFinding) (limit : Nat) :
    (keepGravest findings limit).countBefore = findings.length := by
  unfold keepGravest
  split <;> rfl

/-- Findings are dropped exactly if there are too many. -/
theorem truncated_keepGravest_iff (findings : List RawFinding) (limit : Nat) :
    (keepGravest findings limit).truncated = true ↔ limit < findings.length := by
  unfold keepGravest
  split
  · rename_i h
    simpa using h
  · rename_i h
    simpa using h

/-- As many findings are kept as the limit allows. -/
theorem length_keepGravest (findings : List RawFinding) (limit : Nat) :
    (keepGravest findings limit).findings.length = min findings.length limit := by
  unfold keepGravest
  split
  · rename_i h
    exact (Nat.min_eq_left h).symm
  · simp [Nat.min_comm]

/-- Only given findings are kept. -/
theorem mem_of_mem_keepGravest {f : RawFinding} {findings : List RawFinding} {limit : Nat}
    (h : f ∈ (keepGravest findings limit).findings) : f ∈ findings := by
  unfold keepGravest at h
  split at h
  · exact h
  · exact List.mem_mergeSort.mp (List.mem_of_mem_take h)

/-- Findings that are few enough stay as they are. -/
theorem keepGravest_of_le {findings : List RawFinding} {limit : Nat}
    (h : findings.length ≤ limit) : (keepGravest findings limit).findings = findings := by
  rw [keepGravest, if_pos h]

/-! ### Each finding in its place -/

/-- What a finding is settled as stands for it. -/
theorem standsFor_of_settle {candidates : List Json} {note : String}
    {offer : RawFinding × Option Json} {f : TranslatedFinding}
    (hoffer : ∀ c, offer.2 = some c → c ∈ candidates) (h : settle note offer = .ok f) :
    StandsFor candidates offer.1 f := by
  unfold settle at h
  split at h
  · -- the candidate that was given is good enough
    rename_i translated hrewrite
    rw [Except.ok.injEq] at h
    subst h
    obtain ⟨candidate, hgiven, hvalid⟩ := Option.bind_eq_some_iff.mp hrewrite
    obtain ⟨habout, hnote⟩ := isAbout_of_validateCandidate hvalid
    exact ⟨habout, Or.inl ⟨hnote, candidate, hoffer candidate hgiven, hvalid⟩⟩
  · -- nothing good enough was given
    obtain ⟨habout, hnote⟩ := isAbout_of_fallback h
    exact ⟨habout, Or.inr ⟨note, hnote, h⟩⟩

/-- In every translation each kept finding is stood for in its place. -/
theorem forall₂_standsFor {config : Config} {access : ModelAccess} {model : Panel → ModelReply}
    {panel : Panel} {findings : List RawFinding} {t : PanelTranslation}
    (h : (translatePanel config access model panel findings).result = .ok t) :
    List.Forall₂ (StandsFor (offered access (model panel)))
      (keepGravest findings config.maxFindingsPerPanel).findings t.findings := by
  have hmap := translatePanel_findings config (readable_of_translatePanel h)
  rw [h] at hmap
  have hall := mapFindings_eq_ok_iff.mp hmap.symm
  rw [← offers_map_fst config access (model panel), List.forall₂_map_left_iff]
  have hoffers : ∀ offer ∈ offers config access (model panel) findings,
      ∀ c, offer.2 = some c → c ∈ offered access (model panel) := by
    intro offer hoffer c hc
    apply mem_of_some_mem_candidatesFor
    exact hc ▸ (List.of_mem_zip hoffer).2
  refine List.Forall₂.imp ?_ ((List.forall₂_and_left _ _).mpr ⟨hoffers, hall⟩)
  rintro offer f ⟨hc, hf⟩
  exact standsFor_of_settle hc hf

/-- Findings that are stood for agree in everything but words. -/
theorem outline_of_forall₂ {candidates : List Json} {raws : List RawFinding}
    {fs : List TranslatedFinding} (h : List.Forall₂ (StandsFor candidates) raws fs) :
    fs.map TranslatedFinding.outline
      = raws.map fun raw => (raw.id, raw.panel, raw.severity.importance) := by
  induction h with
  | nil => rfl
  | cons hfirst _ ih =>
    rw [List.map_cons, List.map_cons, ih, TranslatedFinding.outline, hfirst.id_eq,
      hfirst.panel_eq, hfirst.importance_eq]

/-! ### Status, reason and counts -/

/-- All findings translated is success. -/
theorem outcomeOf_success_iff (translated all : Nat) :
    (outcomeOf translated all).1 = .success ↔ translated = all := by
  unfold outcomeOf
  split
  · simpa
  · split <;> simpa

/-- None of some findings translated is failure. -/
theorem outcomeOf_failed_iff (translated all : Nat) :
    (outcomeOf translated all).1 = .failed ↔ translated ≠ all ∧ translated = 0 := by
  unfold outcomeOf
  split
  · simp [*]
  · split
    · simp
      omega
    · simp [*]
      omega

/-- Everything between the two is incomplete. -/
theorem outcomeOf_incomplete_iff (translated all : Nat) :
    (outcomeOf translated all).1 = .incomplete ↔ translated ≠ all ∧ 0 < translated := by
  unfold outcomeOf
  split
  · simp [*]
  · split <;> simp [*]

/-- Only success has no reason. -/
theorem outcomeOf_reason_eq_none_iff (translated all : Nat) :
    (outcomeOf translated all).2 = none ↔ (outcomeOf translated all).1 = .success := by
  unfold outcomeOf
  split
  · simp
  · split <;> simp

/-- How the translation of kept findings came out, by how many of them the model had words for. -/
structure PanelTranslation.Tallies (t : PanelTranslation) (panel : Panel)
    (capped : CappedFindings) : Prop where
  panel_eq : t.panel = panel
  translatedCount_eq : t.translatedCount = t.findings.countP fun f => f.note.isNone
  status_eq : t.status = (outcomeOf t.translatedCount capped.findings.length).1
  reason_eq_none_iff : t.reason = none ↔ t.status = .success
  countBefore_eq : t.countBefore = capped.countBefore
  truncated_eq : t.truncated = capped.truncated

/-- The translation by candidates tallies. -/
theorem tallies_of_translateBy {panel : Panel} {capped : CappedFindings} {candidates : List Json}
    {t : PanelTranslation} (h : translateBy panel capped candidates = .ok t) :
    t.Tallies panel capped := by
  unfold translateBy at h
  dsimp only at h
  split at h
  · cases h
  · rename_i shown hshown
    rw [Except.ok.injEq] at h
    subst h
    have hcount : (shown.filter fun f => !f.isFallback).length
        = shown.countP fun f => f.note.isNone := by
      rw [List.countP_eq_length_filter]
      simp only [TranslatedFinding.isFallback, Option.not_isSome]
    exact ⟨rfl, hcount, rfl, outcomeOf_reason_eq_none_iff _ _, rfl, rfl⟩

/-- The translation by a reply tallies. -/
theorem tallies_of_translateWith {panel : Panel} {capped : CappedFindings} {text : List Char}
    {t : PanelTranslation} (h : translateWith panel capped text = .ok t) :
    t.Tallies panel capped := by
  unfold translateWith at h
  split at h
  · exact tallies_of_translateBy h
  · cases h

/-- The translation without a reply tallies if there are findings. -/
theorem tallies_of_translateWithout {panel : Panel} {capped : CappedFindings}
    {reason : TranslationFailure} {t : PanelTranslation} (hne : capped.findings ≠ [])
    (h : translateWithout panel capped reason = .ok t) : t.Tallies panel capped := by
  unfold translateWithout at h
  split at h
  · cases h
  · rename_i shown hshown
    rw [Except.ok.injEq] at h
    subst h
    -- every finding carries a note, so none counts as translated
    have hnoted : ∀ f ∈ shown, ¬ (f.note.isNone = true) := by
      intro f hf
      obtain ⟨raw, -, hraw⟩ := exists_of_mem_mapFindings hshown hf
      rw [(isAbout_of_fallback hraw).2]
      exact Bool.false_ne_true
    have hcount : shown.countP (fun f => f.note.isNone) = 0 := List.countP_eq_zero.mpr hnoted
    have hfailed : (outcomeOf 0 capped.findings.length).1 = .failed :=
      (outcomeOf_failed_iff _ _).mpr ⟨fun h0 => hne (List.length_eq_zero_iff.mp h0.symm), rfl⟩
    exact ⟨rfl, hcount.symm, hfailed.symm, by simp, rfl, rfl⟩

/-- Every translation of some findings tallies. -/
theorem tallies_of_translatePanel {config : Config} {access : ModelAccess}
    {model : Panel → ModelReply} {panel : Panel} {findings : List RawFinding}
    {t : PanelTranslation} (hne : findings ≠ []) (hmax : 0 < config.maxFindingsPerPanel)
    (h : (translatePanel config access model panel findings).result = .ok t) :
    t.Tallies panel (keepGravest findings config.maxFindingsPerPanel) := by
  have hkept : (keepGravest findings config.maxFindingsPerPanel).findings ≠ [] := by
    rw [← List.length_pos_iff, length_keepGravest]
    have := List.length_pos_iff.mpr hne
    omega
  have hempty : ¬ findings.isEmpty = true := by
    rwa [List.isEmpty_iff]
  unfold translatePanel at h
  rw [if_neg hempty] at h
  dsimp only at h
  split at h
  · exact tallies_of_translateWithout hkept h
  · split at h
    · exact tallies_of_translateWith h
    · exact tallies_of_translateWithout hkept h

/-! ### The account -/

/-- A translation that comes about accounts for the findings. -/
theorem accounts_of_translatePanel {config : Config} {access : ModelAccess}
    {model : Panel → ModelReply} {panel : Panel} {findings : List RawFinding}
    {t : PanelTranslation} (hmax : 0 < config.maxFindingsPerPanel)
    (h : (translatePanel config access model panel findings).result = .ok t) :
    t.Accounts panel config.maxFindingsPerPanel (offered access (model panel)) findings := by
  have hall := forall₂_standsFor h
  by_cases hne : findings = []
  · -- of no findings the translation is complete
    subst hne
    rw [translatePanel, List.isEmpty_nil, if_pos rfl, Except.ok.injEq] at h
    subst h
    exact ⟨rfl, hall, rfl, by simp, by simp, by simp, by simp, rfl, by simp⟩
  · have ht := tallies_of_translatePanel hne hmax h
    have hlen : t.findings.length
        = (keepGravest findings config.maxFindingsPerPanel).findings.length := hall.length_eq.symm
    have hpos : 0 < t.findings.length := by
      rw [hlen, length_keepGravest]
      have := List.length_pos_iff.mpr hne
      omega
    have hle : t.translatedCount ≤ t.findings.length := by
      rw [ht.translatedCount_eq]
      exact List.countP_le_length
    -- the status is that of the numbers of translated and of shown findings
    have hstatus := ht.status_eq
    rw [← hlen] at hstatus
    refine ⟨ht.panel_eq, hall, ht.translatedCount_eq, ?_, ?_, ?_, ht.reason_eq_none_iff, ?_, ?_⟩
    · rw [hstatus, outcomeOf_success_iff]
    · rw [hstatus, outcomeOf_failed_iff]
      constructor
      · rintro ⟨-, hzero⟩
        exact ⟨hne, hzero⟩
      · rintro ⟨-, hzero⟩
        exact ⟨by omega, hzero⟩
    · rw [hstatus, outcomeOf_incomplete_iff]
      omega
    · rw [ht.countBefore_eq, countBefore_keepGravest]
    · rw [ht.truncated_eq, truncated_keepGravest_iff]

/-- A finding with a textual message can always be shown. -/
theorem Json.isShowable_of_isText {message : Json} (h : ∃ s, message = .str s) :
    message.isShowable = true := by
  obtain ⟨s, rfl⟩ := h
  rfl

/-- Findings with textual messages are translated, completely or not, unless the reader stops the
    translation. -/
theorem exists_translatePanel_of_text (config : Config) {access : ModelAccess}
    {model : Panel → ModelReply} {panel : Panel} {findings : List RawFinding}
    (hread : findings = [] ∨ Readable access (model panel))
    (htext : ∀ f ∈ findings, ∃ s, f.message = .str s) :
    ∃ t, (translatePanel config access model panel findings).result = .ok t := by
  rw [exists_translatePanel_iff]
  refine ⟨hread, fun f hf => ?_⟩
  obtain ⟨offer, hoffer, rfl⟩ := List.mem_map.mp hf
  apply Json.isShowable_of_isText
  apply htext
  apply mem_of_mem_keepGravest
  rw [← offers_map_fst config access (model panel)]
  exact List.mem_map_of_mem (List.mem_of_mem_filter hoffer)

/-- **The account of a translation.** Whether there is a model or not, whatever it replies within
    the limits of the reader and however asking it fails: findings with textual messages are
    translated, the translation accounts for them, and another model, or none, leaves identifiers,
    panels, order and importance as they are. -/
theorem translatePanel_accounts (config : Config) (access : ModelAccess)
    (model : Panel → ModelReply) (panel : Panel) (findings : List RawFinding)
    (hmax : 0 < config.maxFindingsPerPanel)
    (htext : ∀ f ∈ findings, ∃ s, f.message = .str s)
    (hread : Readable access (model panel)) :
    ∃ t, (translatePanel config access model panel findings).result = .ok t
      ∧ t.Accounts panel config.maxFindingsPerPanel (offered access (model panel)) findings
      ∧ ∀ access' model', Readable access' (model' panel) → ∃ t',
          (translatePanel config access' model' panel findings).result = .ok t'
          ∧ t'.findings.map TranslatedFinding.outline
            = t.findings.map TranslatedFinding.outline := by
  obtain ⟨t, ht⟩ := exists_translatePanel_of_text config (.inr hread) htext
  refine ⟨t, ht, accounts_of_translatePanel hmax ht, ?_⟩
  intro access' model' hread'
  obtain ⟨t', ht'⟩ := exists_translatePanel_of_text config (.inr hread') htext
  refine ⟨t', ht', ?_⟩
  rw [outline_of_forall₂ (forall₂_standsFor ht), outline_of_forall₂ (forall₂_standsFor ht')]

/-- Settings by which a panel shows one finding. -/
def oneShown : Config := { maxFindingsPerPanel := 1 }

/-- Two findings of which the second is graver. -/
def lowThenHigh : List RawFinding :=
  [{ id := "a", panel := .secrets, tool := "test", severity := .low, message := .str "first" },
    { id := "b", panel := .secrets, tool := "test", severity := .high, message := .str "second" }]

/-- A reply that is no JSON text. -/
def regrets : ModelReply := .blocks [⟨true, "Sorry."⟩]

/-- One of two findings is shown, and a reply that is no JSON text translates none. -/
theorem translatePanel_accounts_lowThenHigh :
    0 < oneShown.maxFindingsPerPanel ∧ (∀ f ∈ lowThenHigh, ∃ s, f.message = .str s)
      ∧ Readable .given regrets ∧
      ∃ t, (translatePanel oneShown .given (fun _ => regrets) .secrets lowThenHigh).result = .ok t
        ∧ t.Accounts .secrets 1 [] lowThenHigh
        ∧ ∀ access' model', Readable access' (model' .secrets) → ∃ t',
            (translatePanel oneShown access' model' .secrets lowThenHigh).result = .ok t'
            ∧ t'.findings.map TranslatedFinding.outline
              = t.findings.map TranslatedFinding.outline := by
  have hmax : 0 < oneShown.maxFindingsPerPanel := Nat.one_pos
  have htext : ∀ f ∈ lowThenHigh, ∃ s, f.message = .str s := by
    intro f hf
    rcases List.mem_cons.mp hf with rfl | hf
    · exact ⟨_, rfl⟩
    · exact ⟨_, congrArg RawFinding.message (List.mem_singleton.mp hf)⟩
  have hread : Readable .given regrets := by
    refine .inr fun text htext => ⟨[], ?_⟩
    have hreply : regrets.text = .ok "Sorry.".toList := by rfl
    obtain rfl : "Sorry.".toList = text := Except.ok.inj (hreply.symm.trans htext)
    decide +kernel
  have hoffered : offered .given regrets = [] := by decide +kernel
  refine ⟨hmax, htext, hread, ?_⟩
  rw [← hoffered]
  exact translatePanel_accounts oneShown .given (fun _ => regrets) .secrets lowThenHigh hmax htext
    hread

end PlainScan

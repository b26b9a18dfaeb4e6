import PlainScan.Proofs.Scan.Coherence
import PlainScan.Proofs.Translation.Preference

namespace PlainScan

/-!
# From the analyzers to the report

Between an analyzer and the report its findings are capped, offered to a model, matched with what it
replies and put into a panel.  None is lost, repeated or moved on the way.

* `PanelResult.Carries` — a panel shows the findings of an analysis, each once and in order.
* `carries_panelResult` — a panel made of a translation of the findings of an analyzer does so.
* `ScanServices.HasDefaults` — the four analyzers with any tools, and the translator with any model.
* `ScanServices.report_carries` — every panel of a report shows the findings of its analyzer.
-/

variable {σ : Type}

/-! ### Panels -/

/-- A panel shows the findings of an analysis, each of them once, in order and as grave as it is;
    there are no more than were counted, and no more than the limit. -/
structure PanelResult.Carries (r : PanelResult) (run : Analysis) (limit : Nat) : Prop where
  panel_eq : r.panel = run.panel
  nodup_ids : (r.findings.map TranslatedFinding.id).Nodup
  ids_eq : r.findings.map TranslatedFinding.id = run.findings.map RawFinding.id
  importances_eq : r.findings.map TranslatedFinding.importance
    = run.findings.map fun f => f.severity.importance
  findingCount_eq : r.findingCount = run.totalIssues
  length_le : (r.findings.length : Int) ≤ min (limit : Int) r.findingCount

/-- What an analyzer shows is no more than a limit, no more than it met, and nothing twice. -/
theorem Analysis.Keeps.findings_spec {run : Analysis} {a : AnalyzerInfo} {limit : Nat}
    {issues : List RawFinding} (h : run.Keeps a limit issues) :
    (run.findings.map RawFinding.id).Nodup ∧ run.findings.length ≤ limit
      ∧ run.findings.length ≤ run.totalIssues := by
  rw [h.findings_eq, h.totalIssues_eq]
  refine ⟨?_, List.length_take_le _ _, ?_⟩
  · exact (nodup_ids_firstById issues).sublist ((List.take_sublist _ _).map RawFinding.id)
  · exact Nat.le_trans (List.length_take_le' _ _) (length_firstById_le issues)

/-- **Panels.** If the findings of an analyzer are translated by any model, the panel made of the
    translation shows them. -/
theorem carries_panelResult {config : Config} {access : ModelAccess} {model : Panel → ModelReply}
    {panel : Panel} {run : Analysis} {a : AnalyzerInfo} {issues : List RawFinding}
    {t : PanelTranslation} (hkeeps : run.Keeps a config.maxFindingsPerPanel issues)
    (ht : (translatePanel config access model panel run.findings).result = .ok t) (capHit : Bool)
    (maxFiles : Int) :
    (panelResult run t capHit maxFiles).Carries run config.maxFindingsPerPanel := by
  obtain ⟨hnodup, hlimit, htotal⟩ := hkeeps.findings_spec
  have hall := forall₂_standsFor ht
  -- the analyzer has the same limit, so the translation leaves nothing out
  rw [keepGravest_of_le hlimit] at hall
  have houtline := outline_of_forall₂ hall
  have hids : t.findings.map TranslatedFinding.id = run.findings.map RawFinding.id := by
    have hfirst := congrArg (List.map Prod.fst) houtline
    rwa [List.map_map, List.map_map] at hfirst
  have himportances : t.findings.map TranslatedFinding.importance
      = run.findings.map fun f => f.severity.importance := by
    have hlast := congrArg (List.map fun o => o.2.2) houtline
    rwa [List.map_map, List.map_map] at hlast
  have hlength : t.findings.length = run.findings.length := hall.length_eq.symm
  refine ⟨rfl, hids ▸ hnodup, hids, himportances, rfl, ?_⟩
  simp only [panelResult, hlength]
  omega

/-! ### Reports -/

/-- A scan has the four analyzers, with tools that behave as given in a working area, and the
    translator by its own settings, with a model that may depend on the findings or break. -/
structure ScanServices.HasDefaults (s : ScanServices σ) (tools : WorkingArea → Tools)
    (client : (Panel → List RawFinding) → Option (ModelAccess × (Panel → ModelReply))) : Prop where
  analyzers_eq : s.analyzers = Analyzer.all.map (Analyzer.slot s.config tools)
  translate_eq : s.translate = translatorWith fun findings =>
    (client findings).map fun behaviour => (s.config, behaviour)

/-- A scan that uses the defaults has them, with a model that is always the same. -/
theorem ScanServices.UsesDefaults.hasDefaults {s : ScanServices σ} {tools : WorkingArea → Tools}
    {access : ModelAccess} {model : Panel → ModelReply} (h : s.UsesDefaults tools access model) :
    s.HasDefaults tools fun _ => some (access, model) :=
  ⟨h.analyzers_eq, h.translate_eq⟩

/-- The results of a report stand beside the panels that they are made for. -/
theorem entries_reportOf (s : ScanServices σ) (mode : ScanMode) (url : RepoUrl)
    (acquired : Acquired) (result : Panel → PanelResult) :
    (reportOf s mode url acquired (Panel.all.map result)).entries
      = Panel.all.map fun panel => (panel, result panel) := rfl

/-- **From the analyzers to the report.** Whatever the limiter and the acquisition do, the tools
    write and the model replies: if a scan gives a report, every panel is there and shows the
    findings of its analyzer, each of them once, in order and as grave as it is. -/
theorem ScanServices.report_carries {s : ScanServices σ} {tools : WorkingArea → Tools}
    {client : (Panel → List RawFinding) → Option (ModelAccess × (Panel → ModelReply))}
    (hdefaults : s.HasDefaults tools client) {request : ScanRequest} {limiter : σ} {host : Host}
    {report : ScanReport} (hreport : (scan s request limiter host).report? = some report) :
    ∃ url acquired, RepoUrl.parse request.url = .ok url
      ∧ (s.acquire request.mode url.text host).outcome = .ok acquired
      ∧ report.entries.map Prod.fst = Panel.all
      ∧ ∀ e ∈ report.entries,
        e.2.Carries (s.analysisOf tools request host url acquired e.1)
          s.config.maxFindingsPerPanel := by
  obtain ⟨url, acquired, analyses, translation, config, access, model, hmade, hclient, ht⟩ :=
    exists_isMadeOf hdefaults.translate_eq (runStages_of_report hreport)
  -- the translator has the settings of the scan
  obtain ⟨behaviour, -, hbehaviour⟩ := Option.map_eq_some_iff.mp hclient
  obtain rfl : s.config = config := congrArg Prod.fst hbehaviour
  obtain ⟨outcomes, houtcomes, rfl⟩ := hmade.analyses_eq
  rw [hdefaults.analyzers_eq, outcomes?_defaults, Option.some.injEq] at houtcomes
  subst houtcomes
  refine ⟨url, acquired, hmade.parse_eq, hmade.acquire_eq, ?_⟩
  rw [hmade.report_eq, entries_reportOf, List.map_map, List.forall_mem_map]
  refine ⟨rfl, ?_⟩
  intro panel _
  have hpanel := ht panel
  simp only [outcomeFor_defaults] at hpanel ⊢
  exact carries_panelResult (panel.analyzer.outcome_keeps s.config tools _) hpanel _ _

/-! ### A message that is reported twice -/

/-- A message of the linter, and once more the same behind it. -/
def repeatedMessage : String :=
  "\"Unused.\"\x7d,\x7b\"ruleId\":\"r\",\"line\":1,\"message\":\"Unused.\""

/-- What the linter reports twice is shown once. -/
theorem report_carries_repeatedMessage :
    (lintServices repeatedMessage).HasDefaults (lintSurroundings repeatedMessage).tools
        (fun _ => some (.none, fun _ => .broken))
      ∧ ∃ report,
        (scan (lintServices repeatedMessage) sampleRequest ⟨10, []⟩ sampleHost).report?
          = some report
        ∧ ∃ url acquired, RepoUrl.parse sampleRequest.url = .ok url
          ∧ ((lintServices repeatedMessage).acquire sampleRequest.mode url.text
              sampleHost).outcome = .ok acquired
          ∧ report.entries.map Prod.fst = Panel.all
          ∧ ∀ e ∈ report.entries,
            e.2.Carries ((lintServices repeatedMessage).analysisOf
              (lintSurroundings repeatedMessage).tools sampleRequest sampleHost url acquired e.1)
              (lintServices repeatedMessage).config.maxFindingsPerPanel := by
  have huses := ScanServices.ordinary_usesDefaults .default (lintSurroundings repeatedMessage)
  have hdefaults : (lintServices repeatedMessage).HasDefaults
      (lintSurroundings repeatedMessage).tools (fun _ => some (.none, fun _ => .broken)) :=
    huses.hasDefaults
  have hfull : (scan (lintServices repeatedMessage) sampleRequest ⟨10, []⟩
      sampleHost).HasAllPanels := by
    refine ScanServices.hasAllPanels_of_makesPanels huses (lintServices_admits repeatedMessage)
      (breaksAtRemoval_lintServices repeatedMessage) ⟨fun _ => .inr (.inl rfl), ?_⟩
    rw [← List.all_eq_true]
    decide +kernel
  obtain ⟨report, hreport, -⟩ := hfull
  exact ⟨hdefaults, report, hreport, ScanServices.report_carries hdefaults hreport⟩

end PlainScan

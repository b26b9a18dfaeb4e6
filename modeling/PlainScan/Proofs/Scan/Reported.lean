import PlainScan.Proofs.Scan.Admitted
import PlainScan.Proofs.Translation.Accounts

namespace PlainScan

/-!
# When a scan gives a report

A scan that has its files gives a report, unless the linter passes on a message that nothing can be
made of, the reader breaks on a reply of the model, or the working area cannot be removed.

* `ScanRun.HasAllPanels` — there is a response with a report, and every panel in order in it.
* `ScanServices.MakesPanels` — what is asked of the replies and of the messages of the linter.
* `ScanServices.hasAllPanels_iff` — when there is a report, and what there is otherwise.
* `not_hasAllPanels_of_number` — a message that is a number leaves no report.
-/

variable {σ : Type} {s : ScanServices σ} {tools : WorkingArea → Tools} {access : ModelAccess}
  {model : Panel → ModelReply} {request : ScanRequest} {limiter : σ} {host : Host} {url : RepoUrl}
  {quota : QuotaState} {acquired : Acquired}

/-- A scan gave a response with a report, and every panel in order in it. -/
def ScanRun.HasAllPanels (run : ScanRun σ) : Prop :=
  ∃ report, run.report? = some report ∧ report.panels.map PanelResult.panel = Panel.all

/-- Everything that the analyzers show can be translated: the reader breaks on no reply that there
    is something to translate with, and each message of the linter that is not translated can be
    shown. -/
structure ScanServices.MakesPanels (s : ScanServices σ) (tools : WorkingArea → Tools)
    (access : ModelAccess) (model : Panel → ModelReply) (request : ScanRequest) (host : Host)
    (url : RepoUrl) (acquired : Acquired) : Prop where
  readable : ∀ p, (s.analysisOf tools request host url acquired p).findings = []
    ∨ Readable access (model p)
  showable : ∀ f ∈ untranslated s.config access (model .codeQuality)
      (s.analysisOf tools request host url acquired .codeQuality).findings,
    f.message.isShowable = true

/-! ### Panels -/

/-- What a scan takes from an analyzer is about the panel of that analyzer. -/
theorem ScanServices.panel_analysisOf (s : ScanServices σ) (p : Panel) :
    (s.analysisOf tools request host url acquired p).panel = p := by
  have hkeeps := p.analyzer.outcome_keeps s.config tools (s.areaOf request host url acquired)
  rw [ScanServices.analysisOf, hkeeps.panel_eq, p.info_analyzer_panel]

/-- On all panels but that of the linter, the findings can be shown as they are. -/
theorem ScanServices.isTextual_of_ne (s : ScanServices σ) {p : Panel} (hp : p ≠ .codeQuality) :
    ∀ f ∈ (s.analysisOf tools request host url acquired p).findings, f.IsTextual := by
  have hanalyzer : p.analyzer ≠ .lint := by
    cases p with
    | codeQuality => exact absurd rfl hp
    | dependencies => decide
    | secrets => decide
    | accessibility => decide
  intro f hf
  exact Analyzer.outcome_isTextual hanalyzer hf

/-- **Panels.** There is a translation for each panel exactly if nothing stands in its way. -/
theorem ScanServices.makesPanels_iff :
    s.MakesPanels tools access model request host url acquired ↔
      ∀ p, ∃ t, (translatePanel s.config access model p
        (s.analysisOf tools request host url acquired p).findings).result = .ok t := by
  constructor
  · rintro ⟨hreadable, hshowable⟩ p
    by_cases hp : p = .codeQuality
    · -- the panel of the linter
      subst hp
      exact (exists_translatePanel_iff s.config access model .codeQuality _).mpr
        ⟨hreadable .codeQuality, hshowable⟩
    · exact exists_translatePanel_of_text s.config (hreadable p) (s.isTextual_of_ne hp)
  · intro h
    exact ⟨fun p => ((exists_translatePanel_iff s.config access model p _).mp (h p)).1,
      ((exists_translatePanel_iff s.config access model .codeQuality _).mp (h .codeQuality)).2⟩

/-! ### Reports -/

/-- If every panel is translated and the working area can be removed, there is a report with every
    panel. -/
theorem ScanServices.hasAllPanels_of_makesPanels (hdefaults : s.UsesDefaults tools access model)
    (hadmits : s.Admits request limiter host url quota acquired)
    (hremoves : s.breaksAtRemoval request host url acquired = false)
    (h : s.MakesPanels tools access model request host url acquired) :
    (scan s request limiter host).HasAllPanels := by
  choose translation htranslation using makesPanels_iff.mp h
  have hresponse := response_of_translated hdefaults hadmits htranslation
  rw [hremoves, if_neg Bool.false_ne_true] at hresponse
  refine ⟨_, by rw [ScanRun.report?, hresponse]; rfl, ?_⟩
  have hpanel : PanelResult.panel ∘ (fun p => panelResult
      (s.analysisOf tools request host url acquired p) (translation p) acquired.capHit
      (s.config.maxFiles request.mode)) = id := by
    ext p
    exact s.panel_analysisOf p
  rw [reportOf, List.map_map, hpanel, List.map_id]

/-- If one of them is not, all the response tells is that something unexpected happened. -/
theorem ScanServices.response_of_not_makesPanels (hdefaults : s.UsesDefaults tools access model)
    (hadmits : s.Admits request limiter host url quota acquired)
    (h : ¬ s.MakesPanels tools access model request host url acquired) :
    (scan s request limiter host).response =
      if s.breaksAtRemoval request host url acquired then none
      else some (errorResponse unexpectedError (some quota)) := by
  rw [makesPanels_iff, not_forall] at h
  obtain ⟨p, hp⟩ := h
  cases hresult : (translatePanel s.config access model p
      (s.analysisOf tools request host url acquired p).findings).result with
  | ok t => exact absurd ⟨t, hresult⟩ hp
  | error crash => exact response_of_crash hdefaults hadmits hresult

/-- An error comes without a report. -/
theorem ScanRun.not_hasAllPanels_of_errorResponse {run : ScanRun σ} {error : ScanError}
    {quota : Option QuotaState} (h : run.response = some (errorResponse error quota)) :
    ¬ run.HasAllPanels := by
  rintro ⟨report, hreport, -⟩
  rw [ScanRun.report?, h] at hreport
  cases hreport

/-- Without a response there is none either. -/
theorem ScanRun.not_hasAllPanels_of_none {run : ScanRun σ} (h : run.response = none) :
    ¬ run.HasAllPanels := by
  rintro ⟨report, hreport, -⟩
  rw [ScanRun.report?, h] at hreport
  cases hreport

/-- **When there is a report.** Whatever the tools write, the model replies or both do not, an
    admitted scan gives a report with every panel exactly if the working area can be removed, the
    reader breaks on no reply, and each message of the linter that is not translated can be shown.
    Otherwise there is no response, if the area cannot be removed, or all it tells is that something
    unexpected happened. -/
theorem ScanServices.hasAllPanels_iff (hdefaults : s.UsesDefaults tools access model)
    (hadmits : s.Admits request limiter host url quota acquired) :
    ((scan s request limiter host).HasAllPanels ↔
      s.breaksAtRemoval request host url acquired = false
        ∧ s.MakesPanels tools access model request host url acquired)
    ∧ ((scan s request limiter host).HasAllPanels
      ∨ (scan s request limiter host).response =
        if s.breaksAtRemoval request host url acquired then none
        else some (errorResponse unexpectedError (some quota))) := by
  by_cases h : s.MakesPanels tools access model request host url acquired
  · cases hbreaks : s.breaksAtRemoval request host url acquired with
    | false =>
      have hfull := hasAllPanels_of_makesPanels hdefaults hadmits hbreaks h
      exact ⟨iff_of_true hfull ⟨rfl, h⟩, .inl hfull⟩
    | true =>
      -- whatever the report is, the scan breaks after it
      choose translation htranslation using makesPanels_iff.mp h
      have hresponse := response_of_translated hdefaults hadmits htranslation
      rw [hbreaks, if_pos rfl] at hresponse
      exact ⟨iff_of_false (ScanRun.not_hasAllPanels_of_none hresponse) nofun, .inr hresponse⟩
  · -- a panel that cannot be translated stops the scan
    have hresponse := response_of_not_makesPanels hdefaults hadmits h
    refine ⟨iff_of_false ?_ fun hmakes => h hmakes.2, .inr hresponse⟩
    cases hbreaks : s.breaksAtRemoval request host url acquired with
    | false =>
      rw [hbreaks] at hresponse
      exact ScanRun.not_hasAllPanels_of_errorResponse hresponse
    | true =>
      rw [hbreaks] at hresponse
      exact ScanRun.not_hasAllPanels_of_none hresponse

/-! ### One message of the linter -/

/-- What the linter writes about one message, given as it is spelled. -/
def lintReport (message : String) : String :=
  "[\x7b\"filePath\":\"a.js\",\"messages\":[\x7b\"ruleId\":\"r\",\"line\":1,\"message\":" ++ message
    ++ "\x7d]\x7d]"

/-- The surroundings of a scan of a repository without files, and without a model, in which the
    linter reports one message and the audit takes too long. -/
def lintSurroundings (message : String) : Surroundings :=
  { now := ⟨19000, 0, some 0⟩
    network := { tree := .answered 200 "OK" (some (.obj [])), file := fun _ => .unreachable }
    tools := fun _ => { lint := .finished ⟨lintReport message, "", 1⟩, audit := .timedOut }
    access := .none
    model := fun _ => .broken
    scanId := "scan-id" }

/-- An ordinary scan in these surroundings. -/
abbrev lintServices (message : String) : ScanServices Quota :=
  .ordinary .default (lintSurroundings message)

/-- A request for a repository. -/
def sampleRequest : ScanRequest := ⟨"https://github.com/owner/repo", "1.1.1.1", .fast⟩

/-- A machine without files. -/
def sampleHost : Host := ⟨[("tmp", .directory [])], ["tmp"], fun _ => .upTo Removal.levelLimit⟩

/-- How the client stands after its first scan of a day. -/
def sampleQuota : QuotaState := ⟨1, 10, ⟨19001, 0, some 0⟩⟩

/-- The empty working area that the scan is given. -/
def sampleAcquired : Acquired := ⟨⟨"/", ["tmp", "lumenclew-0"]⟩, 0, 0, false⟩

/-- Whatever the linter reports, the request is admitted. -/
theorem lintServices_admits (message : String) :
    (lintServices message).Admits sampleRequest ⟨10, []⟩ sampleHost ⟨"owner", "repo"⟩ sampleQuota
      sampleAcquired where
  parse_eq := by decide +kernel
  check_eq := rfl
  acquire_eq := by
    show (acquire .default {} (lintSurroundings "").network .fast
      (RepoUrl.text ⟨"owner", "repo"⟩) sampleHost).outcome = .ok sampleAcquired
    decide +kernel

/-- The empty area can be removed. -/
theorem breaksAtRemoval_lintServices (message : String) :
    (lintServices message).breaksAtRemoval sampleRequest sampleHost ⟨"owner", "repo"⟩ sampleAcquired
      = false := by
  show ((acquire .default {} (lintSurroundings "").network .fast
    (RepoUrl.text ⟨"owner", "repo"⟩) sampleHost).host.closeArea sampleAcquired.location).2 = false
  decide +kernel

/-- A message that is a text leaves a report. -/
theorem hasAllPanels_of_text :
    (lintServices "\"Unused.\"").UsesDefaults (lintSurroundings "\"Unused.\"").tools .none
        (fun _ => .broken)
      ∧ (lintServices "\"Unused.\"").Admits sampleRequest ⟨10, []⟩ sampleHost ⟨"owner", "repo"⟩
          sampleQuota sampleAcquired
      ∧ (scan (lintServices "\"Unused.\"") sampleRequest ⟨10, []⟩ sampleHost).HasAllPanels := by
  have hdefaults := ScanServices.ordinary_usesDefaults .default (lintSurroundings "\"Unused.\"")
  have hadmits := lintServices_admits "\"Unused.\""
  refine ⟨hdefaults, hadmits, (ScanServices.hasAllPanels_iff hdefaults hadmits).1.mpr
    ⟨breaksAtRemoval_lintServices _, fun _ => .inr (.inl rfl), ?_⟩⟩
  rw [← List.all_eq_true]
  decide +kernel

/-- A message that is a number cannot be shown, hence there is no report. -/
theorem not_hasAllPanels_of_number :
    (lintServices "5").UsesDefaults (lintSurroundings "5").tools .none (fun _ => .broken)
      ∧ (lintServices "5").Admits sampleRequest ⟨10, []⟩ sampleHost ⟨"owner", "repo"⟩ sampleQuota
          sampleAcquired
      ∧ (scan (lintServices "5") sampleRequest ⟨10, []⟩ sampleHost).response
        = some (errorResponse unexpectedError (some sampleQuota))
      ∧ ¬ (scan (lintServices "5") sampleRequest ⟨10, []⟩ sampleHost).HasAllPanels := by
  have hdefaults := ScanServices.ordinary_usesDefaults .default (lintSurroundings "5")
  have hadmits := lintServices_admits "5"
  have hnot : ¬ (lintServices "5").MakesPanels (lintSurroundings "5").tools .none (fun _ => .broken)
      sampleRequest sampleHost ⟨"owner", "repo"⟩ sampleAcquired := by
    intro hmakes
    have hall := List.all_eq_true.mpr hmakes.showable
    revert hall
    decide +kernel
  have hresponse := ScanServices.response_of_not_makesPanels hdefaults hadmits hnot
  rw [breaksAtRemoval_lintServices, if_neg Bool.false_ne_true] at hresponse
  exact ⟨hdefaults, hadmits, hresponse, ScanRun.not_hasAllPanels_of_errorResponse hresponse⟩

end PlainScan

import PlainScan.Proofs.Analysis.Issues
import PlainScan.Proofs.Scan.Stages
import PlainScan.Proofs.Translation.Disposition
import PlainScan.Scan.Services

namespace PlainScan

/-!
# A scan that has its files

Once a request is admitted and the repository is acquired, only the translation can still stop a
scan that uses the default analyzers, and only the removal of the working area can keep it from a
response.

* `ScanServices.UsesDefaults` — the four analyzers and the translator of an ordinary scan; limiter
  and acquisition are left open.
* `ScanServices.Admits` — a request that gets as far as a working area;
  `ScanServices.breaksAtRemoval` — whether the removal of that area breaks.
* `cleared_runStages_iff` — when nothing breaks in the end of a scan.
* `Analyzer.outcome` — what a scan takes from an analyzer, one that overruns included.
* `ScanServices.response_of_translated`, `ScanServices.response_of_crash` — the response, depending
  on the translations.
-/

variable {σ : Type}

/-! ### Services and requests -/

/-- A scan has the four analyzers, with tools that behave as given in a working area, and the
    translator with a way to reach a model. -/
structure ScanServices.UsesDefaults (s : ScanServices σ) (tools : WorkingArea → Tools)
    (access : ModelAccess) (model : Panel → ModelReply) : Prop where
  analyzers_eq : s.analyzers = Analyzer.all.map (Analyzer.slot s.config tools)
  translate_eq : s.translate = fun findings =>
    translatorAnswer (translatePanels s.config access model findings)

/-- An ordinary scan uses the defaults. -/
theorem ScanServices.ordinary_usesDefaults (config : Config) (s : Surroundings) :
    (ScanServices.ordinary config s).UsesDefaults s.tools s.access s.model :=
  ⟨rfl, rfl⟩

/-- A request is admitted: its address is valid, there is quota left, and the repository is
    acquired. -/
structure ScanServices.Admits (s : ScanServices σ) (request : ScanRequest) (limiter : σ)
    (host : Host) (url : RepoUrl) (quota : QuotaState) (acquired : Acquired) : Prop where
  parse_eq : RepoUrl.parse request.url = .ok url
  check_eq : (s.check limiter request.client).2 = some ⟨true, quota⟩
  acquire_eq : (s.acquire request.mode url.text host).outcome = .ok acquired

/-- The working area of a scan that is given its files. -/
def ScanServices.areaOf (s : ScanServices σ) (request : ScanRequest) (host : Host) (url : RepoUrl)
    (acquired : Acquired) : WorkingArea :=
  (s.acquire request.mode url.text host).host.area acquired.location

/-- Whether the removal of that area breaks in the end. -/
def ScanServices.breaksAtRemoval (s : ScanServices σ) (request : ScanRequest) (host : Host)
    (url : RepoUrl) (acquired : Acquired) : Bool :=
  ((s.acquire request.mode url.text host).host.closeArea acquired.location).2

/-! ### Analyzers -/

/-- What a scan takes from an analyzer: its outcome, or a note that it overran. -/
def Analyzer.outcome (config : Config) (tools : WorkingArea → Tools) (area : WorkingArea)
    (a : Analyzer) : Analysis :=
  if a.waits area (tools area) then unfinished (a.slot config tools)
  else a.run config area (tools area) (a.timeout config)

/-- What an analyzer meets as far as the scan waits for it. -/
def Analyzer.awaitedIssues (config : Config) (tools : WorkingArea → Tools) (area : WorkingArea)
    (a : Analyzer) : List RawFinding :=
  if a.waits area (tools area) then []
  else a.issues config area (tools area) (a.timeout config)

/-- The analyzer that fills a panel. -/
def Panel.analyzer : Panel → Analyzer
  | codeQuality => .lint
  | dependencies => .audit
  | secrets => .secrets
  | accessibility => .accessibility

@[simp] theorem Panel.info_analyzer_panel (p : Panel) : p.analyzer.info.panel = p := by
  cases p <;> rfl

/-- What a scan that is given its files takes from the analyzer of each panel. -/
def ScanServices.analysisOf (s : ScanServices σ) (tools : WorkingArea → Tools)
    (request : ScanRequest) (host : Host) (url : RepoUrl) (acquired : Acquired) (p : Panel) :
    Analysis :=
  p.analyzer.outcome s.config tools (s.areaOf request host url acquired)

/-- What a scan takes from an analyzer keeps what that analyzer met. -/
theorem Analyzer.outcome_keeps (config : Config) (tools : WorkingArea → Tools)
    (area : WorkingArea) (a : Analyzer) :
    (a.outcome config tools area).Keeps a.info config.maxFindingsPerPanel
      (a.awaitedIssues config tools area) := by
  unfold outcome awaitedIssues
  split
  · exact a.info.failed_keeps _ _ _
  · exact a.run_keeps config area (tools area) (a.timeout config)

/-- Among what a scan takes, only the messages of the linter may be no texts. -/
theorem Analyzer.outcome_isTextual {config : Config} {tools : WorkingArea → Tools}
    {area : WorkingArea} {a : Analyzer} (ha : a ≠ lint) {f : RawFinding}
    (hf : f ∈ (a.outcome config tools area).findings) : f.IsTextual := by
  rw [(a.outcome_keeps config tools area).findings_eq] at hf
  have hmet := mem_of_mem_firstById (List.mem_of_mem_take hf)
  unfold awaitedIssues at hmet
  split at hmet
  · exact absurd hmet List.not_mem_nil
  · exact isTextual_of_ne_lint ha hmet

/-- A pass over a list that never stops is a map. -/
theorem mapM_eq_pure_map {m : Type → Type} [Monad m] [LawfulMonad m] {α β : Type} {f : α → m β}
    {g : α → β} (h : ∀ x, f x = pure (g x)) (xs : List α) : xs.mapM f = pure (xs.map g) := by
  rw [funext h]
  exact List.mapM_pure

/-- A pass over a list that comes to its end has not stopped anywhere. -/
theorem exists_ok_of_mapM_ok {ε α β : Type} {f : α → Except ε β} {xs : List α} {ys : List β}
    (h : xs.mapM f = .ok ys) : ∀ x ∈ xs, ∃ y, f x = .ok y := by
  induction xs generalizing ys with
  | nil => simp
  | cons x rest ih =>
    rw [List.mapM_cons] at h
    cases hx : f x with
    | error e => simp [hx, bind, Except.bind] at h
    | ok y =>
      -- the pass went on, so it came to its end in the rest of the list as well
      cases hrest : rest.mapM f with
      | error e => simp [hx, hrest, bind, Except.bind] at h
      | ok more =>
        rw [List.forall_mem_cons]
        exact ⟨⟨y, hx⟩, ih hrest⟩

/-- The default analyzers never break; each has an outcome. -/
theorem outcomes?_defaults (config : Config) (tools : WorkingArea → Tools) (area : WorkingArea) :
    outcomes? area (Analyzer.all.map (Analyzer.slot config tools))
      = some (Analyzer.all.map fun a => (a.info.panel, a.outcome config tools area)) := by
  rw [outcomes?, List.mapM_map]
  apply mapM_eq_pure_map
  intro a
  by_cases hwaits : a.waits area (tools area) = true
  · simp [Function.comp, Analyzer.slot, Analyzer.outcome, hwaits]
  · simp [Function.comp, Analyzer.slot, Analyzer.outcome, hwaits]

/-- Each panel gets the outcome of its own analyzer. -/
theorem outcomeFor_defaults (config : Config) (tools : WorkingArea → Tools) (area : WorkingArea)
    (panel : Panel) :
    outcomeFor (Analyzer.all.map fun a => (a.info.panel, a.outcome config tools area)) panel
      = panel.analyzer.outcome config tools area := by
  cases panel <;> rfl

/-! ### Translations -/

/-- If every panel is translated, the translator has a translation for each. -/
theorem translatorAnswer_of_ok {config : Config} {access : ModelAccess}
    {model : Panel → ModelReply} {findings : Panel → List RawFinding}
    {translation : Panel → PanelTranslation}
    (h : ∀ p, (translatePanel config access model p (findings p)).result = .ok (translation p)) :
    ∃ answer, (translatorAnswer (translatePanels config access model findings)).result = some answer
      ∧ ∀ p, answer p = some (translation p) := by
  refine ⟨fun p => (Panel.all.map translation).find? fun t => t.panel == p, ?_, ?_⟩
  · -- no panel stops the pass over all of them
    have hmap : (translatePanels config access model findings).mapM TranslationRun.result
        = .ok (Panel.all.map translation) := by
      rw [translatePanels, List.mapM_map]
      exact mapM_eq_pure_map h Panel.all
    simp only [translatorAnswer, hmap]
  · intro p
    have hpanel : ∀ p, (translation p).panel = p := fun p => panel_of_translatePanel (h p)
    cases p <;> simp [Panel.all, hpanel]

/-- If a panel crashes, the translator has nothing to show. -/
theorem translatorAnswer_of_error {config : Config} {access : ModelAccess}
    {model : Panel → ModelReply} {findings : Panel → List RawFinding} {p : Panel} {crash : Crash}
    (h : (translatePanel config access model p (findings p)).result = .error crash) :
    (translatorAnswer (translatePanels config access model findings)).result = none := by
  cases hall : (translatePanels config access model findings).mapM TranslationRun.result with
  | error crash => simp only [translatorAnswer, hall]
  | ok translations =>
    -- the pass cannot have come past the panel that crashed
    rw [translatePanels, List.mapM_map] at hall
    obtain ⟨t, ht⟩ := exists_ok_of_mapM_ok hall p p.mem_all
    rw [Function.comp, h] at ht
    cases ht

/-! ### Stages -/

section Stages

variable {s : ScanServices σ} {tools : WorkingArea → Tools} {access : ModelAccess}
  {model : Panel → ModelReply} {request : ScanRequest} {limiter : σ} {host : Host} {url : RepoUrl}
  {quota : QuotaState} {acquired : Acquired}

/-- An admitted request is received, and its client is told how it stands. -/
theorem ScanServices.Admits.exists_receive
    (h : s.Admits request limiter host url quota acquired) :
    ∃ p, receive s request { limiter := limiter, host := host } = (p, .ok url)
      ∧ p.host = host ∧ p.quota = some quota := by
  cases hcheck : s.check limiter request.client with
  | mk limiter' decision =>
    have hdecision : decision = some ⟨true, quota⟩ := by
      rw [← h.check_eq, hcheck]
    refine ⟨{ limiter := limiter', host := host, quota := some quota }, ?_, rfl, rfl⟩
    simp only [receive, h.parse_eq, hcheck, hdecision, if_true]

/-- A request that is received and acquired is admitted. -/
theorem exists_admits_of_receive
    (hreceive : (receive s request { limiter := limiter, host := host }).2 = .ok url)
    (hacquire : (s.acquire request.mode url.text host).outcome = .ok acquired) :
    ∃ quota, s.Admits request limiter host url quota acquired := by
  have hparse := parse_of_receive hreceive
  simp only [receive, hparse] at hreceive
  split at hreceive
  · cases hreceive
  · rename_i limiter' decision hcheck
    split at hreceive
    · rename_i hallowed
      have hdecision : decision = ⟨true, decision.state⟩ := by rw [← hallowed]
      exact ⟨decision.state, hparse, by rw [hcheck, ← hdecision], hacquire⟩
    · cases hreceive

/-- In the end the area of an admitted request is removed. -/
theorem ScanServices.Admits.cleared_eq (h : s.Admits request limiter host url quota acquired) :
    (runStages s request { limiter := limiter, host := host }).1.cleared.2
      = s.breaksAtRemoval request host url acquired := by
  obtain ⟨p, hreceive, -, -⟩ := h.exists_receive
  have harea : (s.acquire request.mode url.text host).area? = some acquired.location := by
    rw [AcquisitionRun.area?, h.acquire_eq]
    rfl
  rw [cleared_runStages (congrArg Prod.snd hreceive), harea]
  rfl

/-- **The removal.** What a scan does in the end breaks only for an admitted request. -/
theorem cleared_runStages_iff :
    (runStages s request { limiter := limiter, host := host }).1.cleared.2 = false ↔
      ∀ url quota acquired, s.Admits request limiter host url quota acquired →
        s.breaksAtRemoval request host url acquired = false := by
  constructor
  · intro hcleared url quota acquired hadmits
    rw [← hadmits.cleared_eq, hcleared]
  · intro h
    cases hreceive : (receive s request { limiter := limiter, host := host }).2 with
    | error stop => rw [cleared_runStages_of_error hreceive]
    | ok url =>
      cases hacquire : (s.acquire request.mode url.text host).outcome with
      | ok acquired =>
        obtain ⟨quota, hadmits⟩ := exists_admits_of_receive hreceive hacquire
        rw [hadmits.cleared_eq, h url quota acquired hadmits]
      | error stop =>
        -- nothing was handed over
        rw [cleared_runStages hreceive, AcquisitionRun.area?, hacquire]
        rfl

/-- After an admitted request is received, its files are there. -/
theorem ScanServices.Admits.exists_obtain (h : s.Admits request limiter host url quota acquired)
    {p : ScanProgress σ} (hp : p.host = host) :
    ∃ p', obtain s request.mode url p = (p', .ok acquired)
      ∧ p'.host.area acquired.location = s.areaOf request host url acquired
      ∧ p'.quota = p.quota := by
  refine ⟨{ p.enter .acquiring with
    host := (s.acquire request.mode url.text host).host
    requests := p.requests ++ (s.acquire request.mode url.text host).requests
    area := some acquired.location }, ?_, rfl, rfl⟩
  simp only [obtain, hp, h.acquire_eq]

/-- Every panel is analyzed by default. -/
theorem ScanServices.UsesDefaults.exists_analyze (h : s.UsesDefaults tools access model)
    (acquired : Acquired) (p : ScanProgress σ) :
    ∃ p', analyze s acquired p = (p', .ok fun panel =>
        panel.analyzer.outcome s.config tools (p.host.area acquired.location))
      ∧ p'.quota = p.quota := by
  refine ⟨p.enter .analyzing, ?_, rfl⟩
  have hall : outcomes? ((p.enter .analyzing).host.area acquired.location) s.analyzers
      = some (Analyzer.all.map fun a =>
          (a.info.panel, a.outcome s.config tools (p.host.area acquired.location))) := by
    rw [h.analyzers_eq]
    exact outcomes?_defaults s.config tools _
  simp only [analyze, hall, funext (outcomeFor_defaults s.config tools _)]

/-- By default an admitted scan comes to the translation of what its analyzers show. -/
theorem ScanServices.UsesDefaults.exists_translate (hdefaults : s.UsesDefaults tools access model)
    (hadmits : s.Admits request limiter host url quota acquired) :
    ∃ p : ScanProgress σ, p.quota = some quota ∧
      runStages s request { limiter := limiter, host := host } =
        andThen (PlainScan.translate s (s.analysisOf tools request host url acquired) p)
          fun translations p =>
            assemble s request.mode url acquired (s.analysisOf tools request host url acquired)
              translations p := by
  obtain ⟨p₁, hreceive, hhost, hquota⟩ := hadmits.exists_receive
  obtain ⟨p₂, hobtain, harea, hquota₂⟩ := hadmits.exists_obtain hhost
  obtain ⟨p₃, hanalyze, hquota₃⟩ := hdefaults.exists_analyze acquired p₂
  have hanalyses : (fun panel : Panel => panel.analyzer.outcome s.config tools
      (p₂.host.area acquired.location)) = s.analysisOf tools request host url acquired := by
    rw [harea]
    rfl
  refine ⟨p₃, by rw [hquota₃, hquota₂, hquota], ?_⟩
  rw [runStages, hreceive, andThen_ok, hobtain, andThen_ok, hanalyze, andThen_ok, hanalyses]

/-- **Report.** If what every analyzer shows is translated, the response is the report with a panel
    for each, unless the working area cannot be removed. -/
theorem ScanServices.response_of_translated (hdefaults : s.UsesDefaults tools access model)
    (hadmits : s.Admits request limiter host url quota acquired)
    {translation : Panel → PanelTranslation}
    (h : ∀ p, (translatePanel s.config access model p
      (s.analysisOf tools request host url acquired p).findings).result = .ok (translation p)) :
    (scan s request limiter host).response =
      if s.breaksAtRemoval request host url acquired then none
      else some (reportResponse (reportOf s request.mode url acquired (Panel.all.map fun p =>
        panelResult (s.analysisOf tools request host url acquired p) (translation p)
          acquired.capHit (s.config.maxFiles request.mode))) (some quota)) := by
  obtain ⟨p, hquota, hrun⟩ := hdefaults.exists_translate hadmits
  obtain ⟨answer, hanswer, htranslation⟩ := translatorAnswer_of_ok h
  -- there is a translation for each of the panels
  have hpanels : panels? (s.config.maxFiles request.mode) acquired.capHit
      (s.analysisOf tools request host url acquired) answer
        = some (Panel.all.map fun p =>
            panelResult (s.analysisOf tools request host url acquired p) (translation p)
              acquired.capHit (s.config.maxFiles request.mode)) := by
    apply mapM_eq_pure_map
    intro p
    rw [htranslation p]
    rfl
  rw [response_scan, hadmits.cleared_eq, hrun]
  simp only [PlainScan.translate, hdefaults.translate_eq, hanswer, andThen_ok, assemble, hpanels]
  rw [← hquota]
  rfl

/-- **No report.** If what one of the analyzers shows cannot be translated, the response is that
    something unexpected happened, unless the working area cannot be removed. -/
theorem ScanServices.response_of_crash (hdefaults : s.UsesDefaults tools access model)
    (hadmits : s.Admits request limiter host url quota acquired) {p : Panel} {crash : Crash}
    (h : (translatePanel s.config access model p
      (s.analysisOf tools request host url acquired p).findings).result = .error crash) :
    (scan s request limiter host).response =
      if s.breaksAtRemoval request host url acquired then none
      else some (errorResponse unexpectedError (some quota)) := by
  obtain ⟨progress, hquota, hrun⟩ := hdefaults.exists_translate hadmits
  have hanswer : (translatorAnswer (translatePanels s.config access model fun panel =>
      (s.analysisOf tools request host url acquired panel).findings)).result = none :=
    translatorAnswer_of_error h
  rw [response_scan, hadmits.cleared_eq, hrun]
  simp only [PlainScan.translate, hdefaults.translate_eq, hanswer, andThen_error]
  rw [← hquota]
  rfl

end Stages

end PlainScan

import PlainScan.Proofs.Acquisition.Area
import PlainScan.Proofs.Scan.Repository

namespace PlainScan

/-!
# Coherent responses

The status of a response, its error, the report and what the report tells about its panels agree,
whatever the limiter, the acquisition, the analyzers and the model do, or fail to do.  There is a
response unless the working area cannot be removed.

* `PanelResult.Sound` — a panel that is not complete tells why, and a skipped one shows nothing.
* `ScanReport.Coherent`, `ScanResponse.Coherent` — what agrees in a report and in a response.
* `translatorWith` — the translator with any model behind it, or one that breaks.
* `ScanReport.IsMadeOf`, `exists_isMadeOf` — what a report is made of.
* `scan_coherent_iff` — every response is coherent, and when there is one.
-/

variable {σ : Type}

/-! ### Panels -/

/-- A panel that is not complete tells why, and a panel that was skipped shows no findings. -/
structure PanelResult.Sound (r : PanelResult) : Prop where
  reason : r.status ≠ .success → r.reason.isSome = true
  skipped : r.status = .skipped → r.findings = []

/-- The line about a panel that is not complete: the key, the reason, and in brackets what else is
    told, if anything is. -/
def PanelResult.mention (key : Panel) (r : PanelResult) : String :=
  key.name ++ ": " ++ (r.reason.map StatusReason.name).getD "" ++
    match r.errorMessage with
    | some message => if message.isEmpty then "" else " (" ++ message ++ ")"
    | none => ""

/-- Only an analysis that stopped early without findings is skipped. -/
theorem findings_of_skipped {run : Analysis} {t : PanelTranslation} {capHit : Bool} {maxFiles : Int}
    (h : (panelVerdict run t capHit maxFiles).status = .skipped) : run.findings = [] := by
  unfold panelVerdict at h
  split at h
  · by_cases hempty : run.findings.isEmpty = true
    · exact List.isEmpty_iff.mp hempty
    · simp [degradedVerdict, hempty] at h
  · split at h
    · simp [translationVerdict] at h
    · split at h
      · simp [capVerdict] at h
      · simp at h

/-- Whatever is not complete has a reason. -/
theorem reason_of_ne_success {run : Analysis} {t : PanelTranslation} {capHit : Bool}
    {maxFiles : Int} (h : (panelVerdict run t capHit maxFiles).status ≠ .success) :
    (panelVerdict run t capHit maxFiles).reason.isSome = true := by
  unfold panelVerdict at h ⊢
  split
  · rfl
  · split
    · rfl
    · split
      · rfl
      · simp_all

/-- **Panels.** If no findings are translated to no findings, the panel is sound. -/
theorem sound_panelResult {run : Analysis} {t : PanelTranslation}
    (hnil : run.findings = [] → t.findings = []) (capHit : Bool) (maxFiles : Int) :
    (panelResult run t capHit maxFiles).Sound where
  reason := reason_of_ne_success
  skipped h := hnil (findings_of_skipped h)

/-- A panel that is not complete is mentioned if it is sound. -/
theorem PanelResult.Sound.partialReason?_eq {r : PanelResult} (h : r.Sound) (key : Panel) :
    partialReason? key r = if r.status != .success then some (r.mention key) else none := by
  by_cases hstatus : r.status = .success
  · simp [partialReason?_of_success key hstatus, hstatus]
  · obtain ⟨reason, hreason⟩ := Option.isSome_iff_exists.mp (h.reason hstatus)
    cases hcase : r.status with
    | success => exact absurd hcase hstatus
    | incomplete =>
      cases hmessage : r.errorMessage <;>
        simp [partialReason?, mention, hcase, hreason, hmessage]
    | skipped =>
      cases hmessage : r.errorMessage <;>
        simp [partialReason?, mention, hcase, hreason, hmessage]

/-! ### Reports and responses -/

/-- What agrees in a report. -/
structure ScanReport.Coherent (r : ScanReport) : Prop where
  keys_eq : r.keys = Panel.all
  length_eq : r.panels.length = r.keys.length
  success_iff : r.status = .success ↔ ∀ p ∈ r.panels, p.status = .success
  error_iff : r.status = .error ↔ ∀ p ∈ r.panels, p.status = .skipped
  sound : ∀ p ∈ r.panels, p.Sound
  mentions : r.partialReasons =
    (r.entries.filter fun e => e.2.status != .success).map fun e => e.2.mention e.1
  unmentioned_iff : r.toJson.field? "partialReasons" = none ↔ ∀ p ∈ r.panels, p.status = .success

/-- What agrees in a response. -/
structure ScanResponse.Coherent (r : ScanResponse) : Prop where
  error_iff : r.error.isSome = true ↔ r.status = .error
  report : ∀ report, r.report = some report → report.status = r.status ∧ report.Coherent
  success_iff : r.status = .success ↔
    ∃ report, r.report = some report ∧ ∀ p ∈ report.panels, p.status = .success
  httpStatus_iff : r.httpStatus = 200 ↔ r.status = .success ∨ r.status = .incomplete

/-- The transport status is that of a success unless the status is an error. -/
theorem httpStatus_eq_200_iff (r : ScanResponse) :
    r.httpStatus = 200 ↔ r.status = .success ∨ r.status = .incomplete := by
  unfold ScanResponse.httpStatus
  cases r.status with
  | success => simp
  | incomplete => simp
  | error =>
    cases r.error with
    | none => simp
    | some e => cases hcode : e.code <;> simp [hcode, ErrorCode.httpStatus]

/-- An error without a report is coherent. -/
theorem coherent_errorResponse (error : ScanError) (quota : Option QuotaState) :
    (errorResponse error quota).Coherent where
  error_iff := by simp [errorResponse]
  report := by simp [errorResponse]
  success_iff := by simp [errorResponse]
  httpStatus_iff := httpStatus_eq_200_iff _

/-- The response to a coherent report is coherent. -/
theorem coherent_reportResponse {report : ScanReport} (h : report.Coherent)
    (quota : Option QuotaState) : (reportResponse report quota).Coherent where
  error_iff := by
    by_cases hstatus : report.status = .error <;> simp [reportResponse, hstatus]
  report := by
    intro other hother
    obtain rfl : report = other := Option.some.inj hother
    exact ⟨rfl, h⟩
  success_iff := by
    have hstatus : (reportResponse report quota).status = report.status := rfl
    rw [hstatus, h.success_iff]
    constructor
    · exact fun hall => ⟨report, rfl, hall⟩
    · rintro ⟨other, hother, hall⟩
      obtain rfl : report = other := Option.some.inj hother
      exact hall
  httpStatus_iff := httpStatus_eq_200_iff _

/-! ### Statuses of reports -/

theorem all_beq_iff (statuses : List PanelStatus) (status : PanelStatus) :
    statuses.all (· == status) = true ↔ ∀ s ∈ statuses, s = status := by
  simp

/-- A report is complete if all panels are. -/
theorem ofPanels_success_iff (statuses : List PanelStatus) :
    ReportStatus.ofPanels statuses = .success ↔ ∀ s ∈ statuses, s = .success := by
  rw [← all_beq_iff, ReportStatus.ofPanels]
  by_cases hall : statuses.all (· == .success) = true
  · simp only [hall, if_true]
  · rw [if_neg hall, iff_false_right hall]
    split <;> simp

/-- Panels that are all skipped are an error, if there are any. -/
theorem ofPanels_error_iff {statuses : List PanelStatus} (hne : statuses ≠ []) :
    ReportStatus.ofPanels statuses = .error ↔ ∀ s ∈ statuses, s = .skipped := by
  rw [← all_beq_iff, ReportStatus.ofPanels]
  by_cases hskipped : statuses.all (· == .skipped) = true
  · have hall : ¬ statuses.all (· == .success) = true := by
      -- the first panel has one status only
      obtain ⟨s, hs⟩ := List.exists_mem_of_ne_nil statuses hne
      have hs' : s = .skipped := (all_beq_iff statuses .skipped).mp hskipped s hs
      intro hall
      have hs'' : s = .success := (all_beq_iff statuses .success).mp hall s hs
      rw [hs'] at hs''
      cases hs''
    simp only [hskipped, if_neg hall, if_true]
  · rw [if_neg hskipped, iff_false_right hskipped]
    split <;> simp

/-- The field with the lines about panels is written where there are any. -/
theorem field?_partialReasons (r : ScanReport) :
    r.toJson.field? "partialReasons" = none ↔ r.partialReasons = [] := by
  cases hlines : r.partialReasons with
  | nil => simp [ScanReport.toJson, Json.field?, Fields.get?, hlines]
  | cons line rest => simp [ScanReport.toJson, Json.field?, Fields.get?, hlines]

/-- **Reports.** A report of sound panels, one for each, is coherent. -/
theorem coherent_reportOf (s : ScanServices σ) (mode : ScanMode) (url : RepoUrl)
    (acquired : Acquired) {panels : List PanelResult} (hlength : panels.length = Panel.all.length)
    (hsound : ∀ p ∈ panels, p.Sound) : (reportOf s mode url acquired panels).Coherent := by
  have hne : panels.map (·.status) ≠ [] := by
    intro hnil
    rw [List.map_eq_nil_iff.mp hnil] at hlength
    cases hlength
  have hmem : ∀ e ∈ Panel.all.zip panels, e.2 ∈ panels := fun e he => (List.of_mem_zip he).2
  -- sound panels are mentioned exactly where they are no success
  have hmentions : (reportOf s mode url acquired panels).partialReasons =
      ((Panel.all.zip panels).filter fun e => e.2.status != .success).map
        fun e => e.2.mention e.1 := by
    rw [← List.filterMap_eq_map, List.filterMap_filter]
    refine List.filterMap_congr fun e he => ?_
    rw [(hsound e.2 (hmem e he)).partialReason?_eq]
    rfl
  have hsuccess : (reportOf s mode url acquired panels).status = .success
      ↔ ∀ p ∈ panels, p.status = .success := by
    show ReportStatus.ofPanels (panels.map (·.status)) = .success ↔ _
    rw [ofPanels_success_iff]
    simp
  refine ⟨rfl, hlength, hsuccess, ?_, hsound, hmentions, ?_⟩
  · show ReportStatus.ofPanels (panels.map (·.status)) = .error ↔ _
    rw [ofPanels_error_iff hne]
    simp [reportOf]
  · have hlines : (reportOf s mode url acquired panels).partialReasons = []
        ↔ ∀ e ∈ Panel.all.zip panels, e.2.status = .success := by
      rw [hmentions, List.map_eq_nil_iff, List.filter_eq_nil_iff]
      simp
    have hsnd : (Panel.all.zip panels).map Prod.snd = panels :=
      List.map_snd_zip (Nat.le_of_eq hlength)
    rw [field?_partialReasons, hlines]
    -- every result stands beside a key
    constructor
    · intro hall p hp
      rw [← hsnd] at hp
      obtain ⟨e, he, rfl⟩ := List.mem_map.mp hp
      exact hall e he
    · exact fun hall e he => hall e.2 (hmem e he)

/-! ### Scans -/

/-- The translator with any model behind it, which may depend on the findings, or one that
    breaks. -/
def translatorWith (client : (Panel → List RawFinding) →
    Option (Config × ModelAccess × (Panel → ModelReply))) (findings : Panel → List RawFinding) :
    TranslatorAnswer :=
  match client findings with
  | some (config, access, model) => translatorAnswer (translatePanels config access model findings)
  | none => ⟨[], none⟩

/-- The translator of an ordinary scan is one of these. -/
theorem translate_ordinary (config : Config) (surroundings : Surroundings)
    (analyzers : List Analyzer) :
    (ScanServices.ordinary config surroundings analyzers).translate
      = translatorWith fun _ => some (config, surroundings.access, surroundings.model) := rfl

/-- If the translator comes to its end, it has translated the findings of each panel. -/
theorem exists_of_translatorAnswer {config : Config} {access : ModelAccess}
    {model : Panel → ModelReply} {findings : Panel → List RawFinding}
    {translations : Panel → Option PanelTranslation}
    (h : (translatorAnswer (translatePanels config access model findings)).result
      = some translations) :
    ∃ t : Panel → PanelTranslation, (∀ p, translations p = some (t p))
      ∧ ∀ p, (translatePanel config access model p (findings p)).result = .ok (t p) := by
  have hall : ∀ p, ∃ t, (translatePanel config access model p (findings p)).result = .ok t := by
    intro p
    cases hresult : (translatePanel config access model p (findings p)).result with
    | ok t => exact ⟨t, rfl⟩
    | error crash =>
      rw [translatorAnswer_of_error hresult] at h
      cases h
  choose t ht using hall
  obtain ⟨answer, hanswer, heach⟩ := translatorAnswer_of_ok ht
  obtain rfl : answer = translations := Option.some.inj (hanswer.symm.trans h)
  exact ⟨t, heach, ht⟩

/-- Where nothing was found, nothing is shown. -/
theorem findings_of_translatePanel_nil {config : Config} {access : ModelAccess}
    {model : Panel → ModelReply} {panel : Panel} {t : PanelTranslation}
    (h : (translatePanel config access model panel []).result = .ok t) : t.findings = [] := by
  have hnil : (translatePanel config access model panel []).result
      = .ok { panel := panel, status := .success } := rfl
  rw [hnil] at h
  cases h
  rfl

/-- The translations of a scan come from its translator. -/
theorem result_of_translate {s : ScanServices σ} {analyses : Panel → Analysis}
    {p p' : ScanProgress σ} {translations : Panel → Option PanelTranslation}
    (h : translate s analyses p = (p', .ok translations)) :
    (s.translate fun panel => (analyses panel).findings).result = some translations := by
  unfold translate at h
  dsimp only at h
  split at h
  · rename_i found hfound
    cases h
    exact hfound
  · cases h

/-- The analyses of a scan come from its analyzers. -/
theorem outcomes?_of_analyze {s : ScanServices σ} {acquired : Acquired} {p p' : ScanProgress σ}
    {analyses : Panel → Analysis} (h : analyze s acquired p = (p', .ok analyses)) :
    ∃ outcomes, outcomes? (p.host.area acquired.location) s.analyzers = some outcomes
      ∧ analyses = outcomeFor outcomes := by
  unfold analyze at h
  dsimp only at h
  split at h
  · rename_i outcomes houtcomes
    cases h
    exact ⟨outcomes, houtcomes, rfl⟩
  · cases h

/-- What a scan has acquired lies in its working area. -/
theorem acquire_of_obtain {s : ScanServices σ} {mode : ScanMode} {url : RepoUrl}
    {p p' : ScanProgress σ} {acquired : Acquired} (h : obtain s mode url p = (p', .ok acquired)) :
    (s.acquire mode url.text p.host).outcome = .ok acquired
      ∧ p'.host = (s.acquire mode url.text p.host).host := by
  unfold obtain at h
  dsimp only at h
  split at h
  · cases h
  · cases h
  · rename_i found hfound
    cases h
    exact ⟨hfound, rfl⟩

/-- The parts that a report of a scan is made of: what was acquired, the analyses of that, and a
    translation for each panel. -/
structure ScanReport.IsMadeOf (report : ScanReport) (s : ScanServices σ) (request : ScanRequest)
    (host : Host) (url : RepoUrl) (acquired : Acquired) (analyses : Panel → Analysis)
    (translation : Panel → PanelTranslation) : Prop where
  parse_eq : RepoUrl.parse request.url = .ok url
  acquire_eq : (s.acquire request.mode url.text host).outcome = .ok acquired
  analyses_eq : ∃ outcomes,
    outcomes? (s.areaOf request host url acquired) s.analyzers = some outcomes
      ∧ analyses = outcomeFor outcomes
  report_eq : report = reportOf s request.mode url acquired (Panel.all.map fun panel =>
    panelResult (analyses panel) (translation panel) acquired.capHit
      (s.config.maxFiles request.mode))

/-- **What a report is made of.** If a scan with such a translator comes to its end, its report is
    made of analyses for all panels and of the translations of what they show. -/
theorem exists_isMadeOf {s : ScanServices σ}
    {client : (Panel → List RawFinding) → Option (Config × ModelAccess × (Panel → ModelReply))}
    (htranslate : s.translate = translatorWith client) {request : ScanRequest}
    {p : ScanProgress σ} {report : ScanReport} (h : (runStages s request p).2 = .ok report) :
    ∃ url acquired analyses translation config access model,
      report.IsMadeOf s request p.host url acquired analyses translation
      ∧ client (fun panel => (analyses panel).findings) = some (config, access, model)
      ∧ ∀ panel, (translatePanel config access model panel (analyses panel).findings).result
          = .ok (translation panel) := by
  -- the four stages before the assembly have come to their ends
  obtain ⟨p₁, url, hreceive, hrest⟩ := exists_of_andThen_ok h
  obtain ⟨p₂, acquired, hobtain, hrest⟩ := exists_of_andThen_ok hrest
  obtain ⟨p₃, analyses, hanalyze, hrest⟩ := exists_of_andThen_ok hrest
  obtain ⟨p₄, translations, htranslated, hlast⟩ := exists_of_andThen_ok hrest
  have hurl := parse_of_receive (congrArg Prod.snd hreceive)
  obtain ⟨limiter, quota, hreceived⟩ := receive_keeps s request p
  rw [hreceive] at hreceived
  obtain rfl : p₁ = { p with limiter := limiter, quota := quota } := hreceived
  obtain ⟨hacquire, harea⟩ := acquire_of_obtain hobtain
  obtain ⟨outcomes, houtcomes, hanalyses⟩ := outcomes?_of_analyze hanalyze
  rw [harea] at houtcomes
  have hresult := result_of_translate htranslated
  rw [htranslate, translatorWith] at hresult
  cases hclient : client fun panel => (analyses panel).findings with
  | none => simp [hclient] at hresult
  | some behaviour =>
    obtain ⟨config, access, model⟩ := behaviour
    rw [hclient] at hresult
    obtain ⟨t, htranslations, ht⟩ := exists_of_translatorAnswer hresult
    -- there is a translation for each of the panels
    have hpanels : panels? (s.config.maxFiles request.mode) acquired.capHit analyses translations
        = some (Panel.all.map fun panel => panelResult (analyses panel) (t panel) acquired.capHit
            (s.config.maxFiles request.mode)) := by
      apply mapM_eq_pure_map
      intro panel
      rw [htranslations panel]
      rfl
    simp only [assemble, hpanels, Except.ok.injEq] at hlast
    exact ⟨url, acquired, analyses, t, config, access, model,
      ⟨hurl, hacquire, ⟨outcomes, houtcomes, hanalyses⟩, hlast.symm⟩, hclient, ht⟩

/-- With such a translator the report of a scan that comes to its end is coherent. -/
theorem coherent_of_runStages_ok {s : ScanServices σ}
    {client : (Panel → List RawFinding) → Option (Config × ModelAccess × (Panel → ModelReply))}
    (htranslate : s.translate = translatorWith client) {request : ScanRequest}
    {p : ScanProgress σ} {report : ScanReport} (h : (runStages s request p).2 = .ok report) :
    report.Coherent := by
  obtain ⟨url, acquired, analyses, t, config, access, model, hmade, -, ht⟩ :=
    exists_isMadeOf htranslate h
  rw [hmade.report_eq]
  refine coherent_reportOf s request.mode url acquired (by simp) ?_
  rw [List.forall_mem_map]
  intro panel _
  refine sound_panelResult (fun hnil => ?_) _ _
  have hpanel := ht panel
  rw [hnil] at hpanel
  exact findings_of_translatePanel_nil hpanel

/-- **Coherence.** Whatever the limiter, the acquisition, the analyzers and the model do, and
    whichever of them break, every response that a scan gives is coherent.  It gives one exactly if
    the working area that it is handed, if any, can be removed in the end. -/
theorem scan_coherent_iff (services : ScanServices σ)
    (client : (Panel → List RawFinding) → Option (Config × ModelAccess × (Panel → ModelReply)))
    (request : ScanRequest) (limiter : σ) (host : Host) :
    let s := { services with translate := translatorWith client }
    ((∃ response, (scan s request limiter host).response = some response ∧ response.Coherent)
      ↔ ∀ url quota acquired, s.Admits request limiter host url quota acquired →
        s.breaksAtRemoval request host url acquired = false)
    ∧ ∀ response, (scan s request limiter host).response = some response → response.Coherent := by
  intro s
  -- what the stages come to is coherent, whether it is given as a response or not
  have hcoherent : (responseTo (runStages s request { limiter := limiter, host := host }).2
      (runStages s request { limiter := limiter, host := host }).1.quota).Coherent := by
    cases hstages : (runStages s request { limiter := limiter, host := host }).2 with
    | error stop => cases stop <;> exact coherent_errorResponse _ _
    | ok report =>
      exact coherent_reportResponse
        (coherent_of_runStages_ok (rfl : s.translate = translatorWith client) hstages) _
  rw [← cleared_runStages_iff, response_scan]
  generalize runStages s request { limiter := limiter, host := host } = run at hcoherent ⊢
  -- there is a response unless the removal at the end broke
  cases hbroke : run.1.cleared.2 with
  | false =>
    rw [if_neg Bool.false_ne_true]
    refine ⟨iff_of_true ⟨_, rfl, hcoherent⟩ rfl, fun response h => ?_⟩
    cases h
    exact hcoherent
  | true =>
    rw [if_pos rfl]
    refine ⟨iff_of_false ?_ Bool.true_eq_false.mp, fun response h => ?_⟩
    · rintro ⟨response, h, -⟩
      cases h
    · cases h

/-! ### An area that is too deep -/

/-- So many directories inside each other, below one more. -/
def nest : Nat → Directory
  | 0 => []
  | levels + 1 => [("a", .directory (nest levels))]

/-- They are more than so many. -/
theorem isDeeper_nest (levels : Nat) : Removal.isDeeper levels (nest levels) = true := by
  induction levels with
  | zero => rfl
  | succ levels ih => simp [nest, Removal.isDeeper, ih]

/-- A machine that goes into so many directories cannot remove them. -/
theorem breaks_upTo_nest (levels : Nat) :
    (Removal.upTo levels (some (nest levels))).breaks = true := by
  rw [Removal.upTo, isDeeper_nest]
  rfl

/-- Services of which the acquisition hands over an area that is too deep to be removed, and of
    which the translator breaks. -/
def deepServices : ScanServices Quota :=
  { lintServices "" with
    acquire := fun _ _ host =>
      ⟨host.withArea "lumenclew-0" (nest Removal.levelLimit), [], .ok sampleAcquired⟩
    translate := translatorWith fun _ => none }

theorem opens_sampleHost : sampleHost.Opens sampleAcquired.location "lumenclew-0" :=
  ⟨rfl, Directory.vacant_of_lookup? rfl rfl⟩

/-- **No response.** The removal breaks, and with it the scan. -/
theorem no_response_of_deepServices :
    (scan deepServices sampleRequest ⟨10, []⟩ sampleHost).response = none := by
  have hadmits : deepServices.Admits sampleRequest ⟨10, []⟩ sampleHost ⟨"owner", "repo"⟩ sampleQuota
      sampleAcquired := ⟨by decide +kernel, rfl, rfl⟩
  have hbreaks : deepServices.breaksAtRemoval sampleRequest sampleHost ⟨"owner", "repo"⟩
      sampleAcquired = true := by
    show ((sampleHost.withArea "lumenclew-0" (nest Removal.levelLimit)).closeArea
      sampleAcquired.location).2 = true
    have hremoval :
        sampleHost.removal sampleAcquired.location = Removal.upTo Removal.levelLimit := rfl
    rw [opens_sampleHost.closeArea_withArea, hremoval, breaks_upTo_nest]
  rw [response_scan, hadmits.cleared_eq, hbreaks]
  rfl

end PlainScan

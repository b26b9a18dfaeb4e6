import PlainScan.Scan.Basic

namespace PlainScan

/-!
# The stages of a scan

Each stage takes the progress so far and gives the progress after it, with its result or with
what stops the scan.

* `receive` — the address is checked, and the quota of the client.
* `obtain` — the repository is acquired.
* `analyze` — every analyzer is asked, and panels without one are filled.
* `translate` — the findings are translated.
* `assemble` — the report is put together.
-/

/-! ### Admission -/

/-- What a client without scans left is told. -/
def quotaError (state : QuotaState) : ScanError :=
  ⟨.rateLimitExceeded, "Daily scan limit of " ++ intText state.maxScansPerDay
    ++ " reached. Try again after " ++ state.resetAt.text ++ "."⟩

/-- Checks the address, then the quota.  An address that is not valid costs no quota. -/
def receive (s : ScanServices σ) (request : ScanRequest) (p : ScanProgress σ) :
    ScanProgress σ × Except ScanStop RepoUrl :=
  match RepoUrl.parse request.url with
  | .error e =>
    match s.peek p.limiter request.client with
    | none => (p, .error .crashed)
    | some state =>
      ({ p with quota := some state }, .error (.refused ⟨.invalidUrl, e.message⟩))
  | .ok url =>
    match s.check p.limiter request.client with
    | (limiter, none) => ({ p with limiter := limiter }, .error .crashed)
    | (limiter, some decision) =>
      let p := { p with limiter := limiter, quota := some decision.state }
      if decision.allowed then (p, .ok url) else (p, .error (.refused (quotaError decision.state)))

/-! ### Acquisition -/

/-- How an error of the acquisition is passed on. -/
def AcquisitionError.code : AcquisitionError → ErrorCode
  | invalidUrl _ => .invalidUrl
  | notFound => .repoNotFound
  | timedOut => .cloneTimeout
  | unreachable _ => .internalError
  | refused _ _ => .internalError
  | invalidJson => .internalError
  | unexpectedBody => .internalError

/-- Acquires the repository; from then on the scan has a working area to remove. -/
def obtain (s : ScanServices σ) (mode : ScanMode) (url : RepoUrl) (p : ScanProgress σ) :
    ScanProgress σ × Except ScanStop Acquired :=
  let run := s.acquire mode url.text p.host
  let p :=
    { p.enter .acquiring with host := run.host, requests := p.requests ++ run.requests }
  match run.outcome with
  | .error .crashed => (p, .error .crashed)
  | .error (.failed e) => (p, .error (.refused ⟨e.code, e.message⟩))
  | .ok acquired => ({ p with area := some acquired.location }, .ok acquired)

/-! ### Analysis -/

/-- The outcome of an analyzer that is still running when the scan stops waiting. -/
def unfinished (slot : AnalyzerSlot) : Analysis :=
  slot.info.failed .timeout
    (slot.info.name ++ " did not finish within " ++ slot.timeout.generalText ++ "s")

/-- The outcome for a panel that no analyzer fills. -/
def unassigned (panel : Panel) : Analysis :=
  AnalyzerInfo.failed ⟨"none", panel⟩ .toolError "No analyzer configured for this panel"

/-- The outcomes of the analyzers, each with its panel, unless one of them breaks. -/
def outcomes? (area : WorkingArea) (slots : List AnalyzerSlot) : Option (List (Panel × Analysis)) :=
  slots.mapM fun slot =>
    match slot.answer area with
    | .finished analysis => some (slot.info.panel, analysis)
    | .stillRunning => some (slot.info.panel, unfinished slot)
    | .broken => none

/-- The outcome for a panel; of several analyzers the last one counts. -/
def outcomeFor (outcomes : List (Panel × Analysis)) (panel : Panel) : Analysis :=
  match outcomes.reverse.lookup panel with
  | some analysis => analysis
  | none => unassigned panel

/-- Asks every analyzer. -/
def analyze (s : ScanServices σ) (acquired : Acquired) (p : ScanProgress σ) :
    ScanProgress σ × Except ScanStop (Panel → Analysis) :=
  let p := p.enter .analyzing
  match outcomes? (p.host.area acquired.location) s.analyzers with
  | some outcomes => (p, .ok (outcomeFor outcomes))
  | none => (p, .error .crashed)

/-! ### Translation -/

/-- Has the findings of all panels translated. -/
def translate (s : ScanServices σ) (analyses : Panel → Analysis) (p : ScanProgress σ) :
    ScanProgress σ × Except ScanStop (Panel → Option PanelTranslation) :=
  let answer := s.translate fun panel => (analyses panel).findings
  let p := { p.enter .translating with asked := p.asked ++ answer.asked }
  match answer.result with
  | some translations => (p, .ok translations)
  | none => (p, .error .crashed)

/-! ### Assembly -/

/-- What every report says about itself. -/
def orientationNote : String :=
  "This report comes from automated static analysis of a subset of the repository's files. "
    ++ "Static tools cannot see how the code runs, so some findings may not apply to your project "
    ++ "and some real issues may not appear here. Treat each item as a prompt for reflection, "
    ++ "not a verdict."

/-- What a scan covered. -/
def scopeOf (config : Config) (mode : ScanMode) (acquired : Acquired) : ScanScope :=
  { maxFilesAllowed := config.maxFiles mode
    maxFileSizeMb := config.maxFileSizeMb
    ignoredDirectories := config.ignoredDirectories
    filesCounted := acquired.fileCount
    filesScanned := acquired.filesScanned
    filesSkipped := acquired.filesSkipped }

/-- The panels of a report in order, unless a translation is missing. -/
def panels? (maxFiles : Nat) (capHit : Bool) (analyses : Panel → Analysis)
    (translations : Panel → Option PanelTranslation) : Option (List PanelResult) :=
  Panel.all.mapM fun panel =>
    (translations panel).map fun t => panelResult (analyses panel) t capHit maxFiles

/-- The report with the given results, one for each panel in order. -/
def reportOf (s : ScanServices σ) (mode : ScanMode) (url : RepoUrl) (acquired : Acquired)
    (panels : List PanelResult) : ScanReport :=
  { id := s.scanId
    repoUrl := url.text
    mode := mode
    status := .ofPanels (panels.map (·.status))
    scope := scopeOf s.config mode acquired
    panels := panels
    orientationNote := orientationNote
    clonedAt := s.clonedAt
    duration := s.duration
    partialReasons := (Panel.all.zip panels).filterMap fun e => partialReason? e.1 e.2
    keys := Panel.all }

/-- Puts the report together. -/
def assemble (s : ScanServices σ) (mode : ScanMode) (url : RepoUrl) (acquired : Acquired)
    (analyses : Panel → Analysis) (translations : Panel → Option PanelTranslation)
    (p : ScanProgress σ) : ScanProgress σ × Except ScanStop ScanReport :=
  let p := p.enter .assembling
  match panels? (s.config.maxFiles mode) acquired.capHit analyses translations with
  | some panels => (p, .ok (reportOf s mode url acquired panels))
  | none => (p, .error .crashed)

end PlainScan

import PlainScan.Acquisition.Basic
import PlainScan.Report.Panels

namespace PlainScan

/-!
# Scans

* `ScanRequest` — the repository, the client and the mode.
* `ScanStage` — the stages of a scan in order.
* `ScanServices` — what a scan leaves to others, any of whom may break.
* `ScanProgress` — how far a scan has come; `ScanStop` — why it goes no further.
* `ScanRun` — the response, and what the scan leaves behind.
-/

/-! ### Requests and stages -/

/-- Who asks for a scan of which repository, and how many files it may take. -/
structure ScanRequest where
  url : String
  client : String
  mode : ScanMode := .fast
  deriving DecidableEq, Repr, Inhabited

/-- The stages of a scan. -/
inductive ScanStage where
  | acquiring
  | analyzing
  | translating
  | assembling
  | done
  deriving DecidableEq, Repr, Inhabited

/-- The word for a stage. -/
def ScanStage.name : ScanStage → String
  | acquiring => "acquiring"
  | analyzing => "analyzing"
  | translating => "translating"
  | assembling => "assembling"
  | done => "done"

/-! ### Services -/

/-- What an analyzer has to show when the scan stops waiting for it. -/
inductive AnalyzerAnswer where
  | finished (analysis : Analysis)
  | stillRunning
  | broken
  deriving Inhabited

/-- An analyzer, the time it is given, and what it makes of a working area. -/
structure AnalyzerSlot where
  info : AnalyzerInfo
  timeout : Number
  answer : WorkingArea → AnalyzerAnswer

/-- The requests made to the model, and the translation of each panel unless that broke. -/
structure TranslatorAnswer where
  asked : List ModelRequest
  result : Option (Panel → Option PanelTranslation)

/-- What a scan leaves to others.  Nothing at all stands for one that breaks.  The limiter keeps a
    state `σ` from one scan to the next. -/
structure ScanServices (σ : Type) where
  config : Config
  peek : σ → String → Option QuotaState
  check : σ → String → σ × Option QuotaDecision
  acquire : ScanMode → String → Host → AcquisitionRun
  analyzers : List AnalyzerSlot
  translate : (Panel → List RawFinding) → TranslatorAnswer
  scanId : String
  clonedAt : String
  duration : Int

/-! ### Progress -/

/-- Why a scan goes no further: an error that the user is told, or a failure that nobody
    foresaw. -/
inductive ScanStop where
  | refused (error : ScanError)
  | crashed
  deriving DecidableEq, Repr, Inhabited

/-- How far a scan has come: the limiter and the file system as they are now, how the client
    stands as far as that is known, the working area that the scan has to remove, and what has
    happened so far. -/
structure ScanProgress (σ : Type) where
  limiter : σ
  host : Host
  quota : Option QuotaState := none
  area : Option FilePath := none
  stages : List ScanStage := []
  requests : List Request := []
  asked : List ModelRequest := []

/-- Takes note of a stage. -/
def ScanProgress.enter (p : ScanProgress σ) (stage : ScanStage) : ScanProgress σ :=
  { p with stages := p.stages ++ [stage] }

/-- The response unless the scan broke in the end, the limiter and the file system afterwards, the
    stages, and the requests made on the way. -/
structure ScanRun (σ : Type) where
  response : Option ScanResponse
  limiter : σ
  host : Host
  stages : List ScanStage
  requests : List Request
  asked : List ModelRequest

end PlainScan

import PlainScan.Config.Basic
import PlainScan.Finding.Basic
import PlainScan.Json.Printer
import PlainScan.Quota

namespace PlainScan

/-!
# Reports

* `PanelResult` — a panel of the report.
* `ScanReport` — the panels of a scan, with its scope and its status.
* `ScanResponse` — what a request is answered with: a report, an error, or both.
* `ScanResponse.toJson` — the written form; `ScanResponse.httpStatus` is its transport status.
-/

/-! ### Panels -/

/-- A panel of the report. -/
structure PanelResult where
  panel : Panel
  status : PanelStatus
  findingCount : Int
  findings : List TranslatedFinding := []
  reason : Option StatusReason := none
  errorMessage : Option String := none
  deriving Inhabited

/-- The written form of a panel. -/
def PanelResult.toJson (r : PanelResult) : Json :=
  .obj <|
    [("panel", .str r.panel.name), ("status", .str r.status.name),
      ("findingCount", .int r.findingCount),
      ("findings", .arr (r.findings.map TranslatedFinding.toJson))]
    ++ Fields.present "statusReason" (.ofString? (r.reason.map StatusReason.name))
    ++ Fields.present "errorMessage" (.ofString? r.errorMessage)

/-! ### Reports -/

/-- How a scan came out. -/
inductive ReportStatus where
  | success
  | incomplete
  | error
  deriving DecidableEq, Repr, Inhabited

namespace ReportStatus

/-- The word for a status. -/
def name : ReportStatus → String
  | success => "success"
  | incomplete => "partial"
  | error => "error"

/-- All statuses. -/
def all : List ReportStatus := [success, incomplete, error]

/-- The status that a word stands for. -/
def ofName? (text : String) : Option ReportStatus := all.find? fun s => s.name == text

/-- The status of a report from those of its panels: complete if all are, an error if all were
    skipped. -/
def ofPanels (statuses : List PanelStatus) : ReportStatus :=
  if statuses.all (· == .success) then success
  else if statuses.all (· == .skipped) then error
  else incomplete

end ReportStatus

/-- What a scan covered. -/
structure ScanScope where
  maxFilesAllowed : Int
  maxFileSizeMb : Number
  ignoredDirectories : List String
  filesCounted : Int
  filesScanned : Int
  filesSkipped : Int
  deriving Inhabited

/-- The written form of a scope. -/
def ScanScope.toJson (s : ScanScope) : Json :=
  .obj
    [("maxFilesAllowed", .int s.maxFilesAllowed), ("maxFileSizeMb", s.maxFileSizeMb.toJson),
      ("ignoredDirectories", .ofStrings s.ignoredDirectories),
      ("filesCounted", .int s.filesCounted), ("filesScanned", .int s.filesScanned),
      ("filesSkipped", .int s.filesSkipped)]

/-- The report of a scan.  Each result has the panel in whose place it stands as its key, which is
    its own panel unless an analyzer hands in a result for another one. -/
structure ScanReport where
  id : String
  repoUrl : String
  mode : ScanMode
  status : ReportStatus
  scope : ScanScope
  panels : List PanelResult
  orientationNote : String
  clonedAt : String
  duration : Int
  partialReasons : List String := []
  keys : List Panel := panels.map (·.panel)
  deriving Inhabited

/-- The results of a report with their keys. -/
def ScanReport.entries (r : ScanReport) : List (Panel × PanelResult) := r.keys.zip r.panels

/-- The written form of a report. -/
def ScanReport.toJson (r : ScanReport) : Json :=
  .obj <|
    [("id", .str r.id), ("repoUrl", .str r.repoUrl), ("scanMode", .str r.mode.name),
      ("status", .str r.status.name), ("scanScope", r.scope.toJson),
      ("panels", .obj (r.entries.map fun e => (e.1.reportKey, e.2.toJson))),
      ("orientationNote", .str r.orientationNote), ("clonedAt", .str r.clonedAt),
      ("scanDuration", .int r.duration)]
    ++ if r.partialReasons.isEmpty then []
       else [("partialReasons", .ofStrings r.partialReasons)]

/-! ### Responses -/

/-- Why a request got no complete report. -/
inductive ErrorCode where
  | invalidUrl
  | repoNotFound
  | cloneTimeout
  | rateLimitExceeded
  | internalError
  deriving DecidableEq, Repr, Inhabited

namespace ErrorCode

/-- The word for an error. -/
def name : ErrorCode → String
  | invalidUrl => "INVALID_GITHUB_URL"
  | repoNotFound => "REPO_NOT_FOUND"
  | cloneTimeout => "CLONE_TIMEOUT"
  | rateLimitExceeded => "RATE_LIMIT_EXCEEDED"
  | internalError => "INTERNAL_ERROR"

/-- All errors. -/
def all : List ErrorCode :=
  [invalidUrl, repoNotFound, cloneTimeout, rateLimitExceeded, internalError]

/-- The error that a word stands for. -/
def ofName? (text : String) : Option ErrorCode := all.find? fun c => c.name == text

/-- The transport status for an error. -/
def httpStatus : ErrorCode → Nat
  | invalidUrl => 400
  | repoNotFound => 404
  | rateLimitExceeded => 429
  | cloneTimeout => 504
  | internalError => 500

end ErrorCode

/-- An error and its explanation. -/
structure ScanError where
  code : ErrorCode
  message : String
  deriving DecidableEq, Repr, Inhabited

/-- The written form of an error. -/
def ScanError.toJson (e : ScanError) : Json :=
  .obj [("code", .str e.code.name), ("message", .str e.message)]

/-- What a request is answered with. -/
structure ScanResponse where
  status : ReportStatus
  report : Option ScanReport := none
  error : Option ScanError := none
  rateLimit : Option QuotaState := none
  deriving Inhabited

namespace ScanResponse

/-- The written form of a response. -/
def toJson (r : ScanResponse) : Json :=
  .obj <|
    [("status", .str r.status.name)]
    ++ Fields.present "report" (.ofOption (r.report.map ScanReport.toJson))
    ++ Fields.present "error" (.ofOption (r.error.map ScanError.toJson))
    ++ [("rateLimit", .ofOption (r.rateLimit.map QuotaState.toJson))]

/-- The written form over several lines. -/
def jsonText (r : ScanResponse) : String := r.toJson.indented

/-- The transport status of a response. -/
def httpStatus (r : ScanResponse) : Nat :=
  match r.status, r.error with
  | .success, _ => 200
  | .incomplete, _ => 200
  | .error, none => 500
  | .error, some e => e.code.httpStatus

end ScanResponse

end PlainScan

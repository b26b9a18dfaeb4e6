import PlainScan.Scan.Stages

namespace PlainScan

/-!
# Running a scan

* `runStages` — the stages one after another, up to the first that stops the scan.
* `conclude` — the response; the working area is removed, however the scan went.  Where that
  breaks there is no response.
* `scan` — both of them.
-/

/-- Whatever comes after a stage, unless it stopped the scan. -/
def andThen (step : ScanProgress σ × Except ScanStop α)
    (next : α → ScanProgress σ → ScanProgress σ × Except ScanStop β) :
    ScanProgress σ × Except ScanStop β :=
  match step with
  | (p, .ok result) => next result p
  | (p, .error stop) => (p, .error stop)

/-- The stages one after another. -/
def runStages (s : ScanServices σ) (request : ScanRequest) (p : ScanProgress σ) :
    ScanProgress σ × Except ScanStop ScanReport :=
  andThen (receive s request p) fun url p =>
  andThen (obtain s request.mode url p) fun acquired p =>
  andThen (analyze s acquired p) fun analyses p =>
  andThen (translate s analyses p) fun translations p =>
  assemble s request.mode url acquired analyses translations p

/-- The error beside a report in which every panel was skipped. -/
def emptyReportError : ScanError := ⟨.internalError, "No analyzer produced usable output"⟩

/-- The error for a failure that nobody foresaw. -/
def unexpectedError : ScanError := ⟨.internalError, "An unexpected error occurred"⟩

/-- The response to a report. -/
def reportResponse (report : ScanReport) (quota : Option QuotaState) : ScanResponse :=
  { status := report.status
    report := some report
    error := if report.status = .error then some emptyReportError else none
    rateLimit := quota }

/-- The response without a report. -/
def errorResponse (error : ScanError) (quota : Option QuotaState) : ScanResponse :=
  { status := .error, error := some error, rateLimit := quota }

/-- The response to what came of the stages. -/
def responseTo (outcome : Except ScanStop ScanReport) (quota : Option QuotaState) :
    ScanResponse :=
  match outcome with
  | .ok report => reportResponse report quota
  | .error (.refused error) => errorResponse error quota
  | .error .crashed => errorResponse unexpectedError quota

/-- The file system without the working area of the scan, as far as that can be removed, and whether
    the removal broke. -/
def ScanProgress.cleared (p : ScanProgress σ) : Host × Bool :=
  match p.area with
  | some location => p.host.closeArea location
  | none => (p.host, false)

/-- Ends a scan: the working area is removed and the response is given.  Nothing catches a removal
    that breaks, and the last stage is not entered then. -/
def conclude (p : ScanProgress σ) (outcome : Except ScanStop ScanReport) : ScanRun σ :=
  let (host, broke) := p.cleared
  { response := if broke then none else some (responseTo outcome p.quota)
    limiter := p.limiter
    host := host
    stages := if broke then p.stages else p.stages ++ [.done]
    requests := p.requests
    asked := p.asked }

/-- Runs a scan from a state of the limiter and of the file system. -/
def scan (s : ScanServices σ) (request : ScanRequest) (limiter : σ) (host : Host) : ScanRun σ :=
  let (p, outcome) := runStages s request { limiter := limiter, host := host }
  conclude p outcome

theorem andThen_ok (p : ScanProgress σ) (result : α)
    (next : α → ScanProgress σ → ScanProgress σ × Except ScanStop β) :
    andThen (p, .ok result) next = next result p := rfl

/-- What holds after the first stage and is preserved by the later ones holds in the end. -/
theorem andThen_preserves {P : ScanProgress σ → Prop}
    {step : ScanProgress σ × Except ScanStop α}
    {next : α → ScanProgress σ → ScanProgress σ × Except ScanStop β} (hstep : P step.1)
    (hnext : ∀ result p, P p → P (next result p).1) : P (andThen step next).1 := by
  obtain ⟨p, result⟩ := step
  cases result with
  | error stop => exact hstep
  | ok result => exact hnext result p hstep

theorem andThen_error (p : ScanProgress σ) (stop : ScanStop)
    (next : α → ScanProgress σ → ScanProgress σ × Except ScanStop β) :
    andThen (p, .error stop) next = (p, .error stop) := rfl

end PlainScan

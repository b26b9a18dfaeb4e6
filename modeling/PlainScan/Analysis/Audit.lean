import PlainScan.Analysis.Basic
import PlainScan.Analysis.Tool
import PlainScan.Text.LowerCase

namespace PlainScan.Audit

/-!
# Dependencies

Reads the report of the package manager's audit: an object of vulnerable packages.

* `info` — the analyzer's name and panel; `manifest` is the file it needs.
* `viaText` — where a vulnerability comes from.
* `finding` — the finding that a package becomes.
* `analyze` — the outcome for a run of the tool.
-/

/-- The audit fills the panel on dependencies. -/
def info : AnalyzerInfo := ⟨"npm_audit", .dependencies⟩

/-- Without this file there is nothing to audit. -/
def manifest : String := "package.json"

/-! ### Vulnerabilities -/

/-- The severity that the audit's word stands for; unknown words count as low. -/
def severityOf (word : String) : Severity :=
  match Text.lowerString word with
  | "critical" => .critical
  | "high" => .high
  | "moderate" => .medium
  | _ => .low

/-- The texts that a list of origins contributes: strings, and the titles or names of objects.
    A title or name of another kind cannot be joined. -/
def viaTexts : List Json → Except Crash (List String)
  | [] => .ok []
  | item :: rest =>
    match viaTexts rest with
    | .error crash => .error crash
    | .ok more =>
      match item with
      | .str s => .ok (s :: more)
      | .obj _ =>
        match ((item.fieldD "title").orElse (item.fieldD "name")).orElse (.str "unknown") with
        | .str s => .ok (s :: more)
        | _ => .error .malformedData
      | _ => .ok more

/-- Where a vulnerability comes from. -/
def viaText (via : Json) : Except Crash String :=
  match via with
  | .arr items =>
    match viaTexts items with
    | .ok texts =>
      let joined := ", ".intercalate texts
      .ok (if joined.isEmpty then "unknown" else joined)
    | .error crash => .error crash
  | other => .ok (other.orElse (.str "unknown")).display

/-- The fields that a finding is known by. -/
def identity (package word via : String) : List Json :=
  [.str info.panel.name, .str info.name, .str package, .str word, .str via]

/-- The finding that a vulnerable package becomes. -/
def finding (package word via : String) (entry : Json) : RawFinding :=
  { id := findingId (identity package word via)
    panel := info.panel
    tool := info.name
    severity := severityOf word
    message := .str (package ++ ": " ++ via)
    file := some manifest
    line := .int 1
    column := .int 0
    metadata :=
      [("packageName", .str package), ("vulnerability", .str via), ("npmSeverity", .str word),
        ("range", (entry.fieldD "range").orElse (.str "*")),
        ("fixAvailable", (entry.fieldD "fixAvailable").orElse (.bool false))] }

/-- The finding about one package, unless it cannot be identified. -/
def packageFinding (package : String) (entry : Json) : Except Crash RawFinding :=
  match (entry.fieldD "severity").orElse (.str "low") with
  | .str word =>
    match viaText (entry.fieldD "via") with
    | .ok via =>
      if isIdentifiable (identity package word via) then .ok (finding package word via entry)
      else .error .unencodable
    | .error crash => .error crash
  | _ => .error .malformedData

/-- The findings about all packages in the order of the report; an entry that is no object is
    passed over. -/
def findings : Fields → Except Crash (List RawFinding)
  | [] => .ok []
  | (package, entry) :: rest =>
    match findings rest with
    | .error crash => .error crash
    | .ok more =>
      if !entry.isObject then .ok more
      else
        match packageFinding package entry with
        | .ok f => .ok (f :: more)
        | .error crash => .error crash

/-! ### Reports -/

/-- What the tool tells about its own failure. -/
def errorText (error : Json) : String :=
  (((error.fieldD "summary").orElse (error.fieldD "code")).orElse (.str "unknown error")).display

/-- The outcome for a report. -/
def analyzeReport (config : Config) (report : Json) : Except Crash Analysis :=
  let error := report.fieldD "error"
  if error.isObject then
    .ok (info.failed .toolError ("npm audit failed: " ++ errorText error))
  else
    match (report.fieldD "vulnerabilities").orElse (.obj []) with
    | .obj entries =>
      match findings entries with
      | .ok found =>
        .ok (info.completed ((Collector.mk config.maxFindingsPerPanel [] 0).addAll found))
      | .error crash => .error crash
    | _ => .error .malformedData

/-- The outcome for what the tool wrote. -/
def analyzeOutput (config : Config) (output : ToolOutput) : Except Crash Analysis :=
  if output.isSilent then
    .ok (info.failed .toolError ("npm audit failed: " ++ output.failureText))
  else
    match Json.attemptText output.stdout with
    | .error limit => .error (.unreadable limit)
    | .ok (some (.obj fields)) => analyzeReport config (.obj fields)
    | .ok _ => .ok (info.failed .toolError "Failed to parse npm audit output")

/-- The outcome for a run of the tool; without a manifest the tool is not asked. -/
def analyze (config : Config) (area : WorkingArea) (tool : ToolOutcome) : Except Crash Analysis :=
  if !area.hasFile manifest then .ok (info.completed ⟨config.maxFindingsPerPanel, [], 0⟩)
  else
    match tool with
    | .finished output => analyzeOutput config output
    | .timedOut | .neverEnds => .ok (info.failed .timeout "npm audit timeout exceeded")
    | .notStarted text => .ok (info.failed .toolError ("npm audit failed: " ++ text))
    | .failed text => .error (.toolFailure text)

end PlainScan.Audit

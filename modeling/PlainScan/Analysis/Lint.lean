import PlainScan.Analysis.Basic
import PlainScan.Analysis.Tool

namespace PlainScan.Lint

/-!
# Code quality

Reads the report of the linter: a list of files, each with its messages.

* `info` — the analyzer's name and panel.
* `finding` — the finding that a message becomes.
* `findings` — the findings of a report, or the crash that its shape causes.
* `analyze` — the outcome for a run of the tool.
-/

/-- The linter fills the panel on code quality. -/
def info : AnalyzerInfo := ⟨"eslint", .codeQuality⟩

/-! ### Messages -/

/-- Only the second level counts as high. -/
def severityOf (level : Json) : Severity :=
  match level with
  | .int 2 => .high
  | .num x => if x = Binary64.ofInt 2 then .high else .low
  | _ => .low

/-- The rule that a message names. -/
def ruleOf (message : Json) : Json := (message.fieldD "ruleId").orElse (.str "unknown")

/-- The fields that a finding is known by. -/
def identity (file : String) (message : Json) : List Json :=
  [.str info.panel.name, .str info.name, ruleOf message, .str file, message.fieldD "line"]

/-- The finding that a message about a file becomes. -/
def finding (file : String) (message : Json) : RawFinding :=
  let rule := ruleOf message
  let line := message.fieldD "line"
  { id := findingId (identity file message)
    panel := info.panel
    tool := info.name
    severity := severityOf ((message.field? "severity").getD (.int 1))
    message := (message.field? "message").getD (.str "ESLint reported an issue")
    file := some file
    line := line
    column := message.fieldD "column"
    metadata := [("ruleId", rule)] }

/-- The messages of a file.  Text and objects can be gone through as well, but hold no messages:
    only empty ones do no harm. -/
def messagesOf (result : Json) : Except Crash (List Json) :=
  match result.field? "messages" with
  | none => .ok []
  | some (.arr items) => if items.all Json.isObject then .ok items else .error .malformedData
  | some (.str s) => if s.isEmpty then .ok [] else .error .malformedData
  | some (.obj fields) => if fields.isEmpty then .ok [] else .error .malformedData
  | some _ => .error .malformedData

/-! ### Reports -/

/-- The findings that the messages about a file become, unless one of them cannot be identified. -/
def messageFindings (file : String) (messages : List Json) : Except Crash (List RawFinding) :=
  if messages.all fun message => isIdentifiable (identity file message) then
    .ok (messages.map (finding file))
  else .error .unencodable

/-- The findings about one file; an entry that is no object is passed over. -/
def fileFindings (area : WorkingArea) (result : Json) : Except Crash (List RawFinding) :=
  if !result.isObject then .ok []
  else
    match (result.field? "filePath").getD (.str "") with
    | .str path =>
      match messagesOf result with
      | .ok messages => messageFindings (area.relativeText path) messages
      | .error crash => .error crash
    | _ => .error .malformedData

/-- The findings of a report in its order. -/
def findings (area : WorkingArea) : List Json → Except Crash (List RawFinding)
  | [] => .ok []
  | result :: rest =>
    match fileFindings area result, findings area rest with
    | .ok here, .ok more => .ok (here ++ more)
    | .error crash, _ => .error crash
    | _, .error crash => .error crash

/-- The exit codes that come with a report: no problems, and problems found. -/
def isReportCode (code : Int) : Bool := code == 0 || code == 1

/-- The outcome for a report. -/
def analyzeReport (config : Config) (area : WorkingArea) (entries : List Json) :
    Except Crash Analysis :=
  match findings area entries with
  | .ok found =>
    .ok (info.completed ((Collector.mk config.maxFindingsPerPanel [] 0).addAll found)
      (some entries.length))
  | .error crash => .error crash

/-- The outcome for what the tool wrote. -/
def analyzeOutput (config : Config) (area : WorkingArea) (output : ToolOutput) :
    Except Crash Analysis :=
  if !isReportCode output.exitCode && output.isSilent then
    .ok (info.failed .toolError ("ESLint execution failed: " ++ output.failureText))
  else
    match Json.attemptText output.stdout with
    | .error limit => .error (.unreadable limit)
    | .ok (some (.arr entries)) => analyzeReport config area entries
    | .ok _ => .ok (info.failed .toolError "Failed to parse ESLint JSON output")

/-- The outcome for a run of the tool. -/
def analyze (config : Config) (area : WorkingArea) (timeout : Number) (tool : ToolOutcome) :
    Except Crash Analysis :=
  match tool with
  | .finished output => analyzeOutput config area output
  | .timedOut | .neverEnds =>
    .ok (info.failed .timeout ("ESLint timeout after " ++ timeout.generalText ++ "s"))
  | .notStarted text => .ok (info.failed .toolError ("ESLint could not be started: " ++ text))
  | .failed text => .error (.toolFailure text)

end PlainScan.Lint

import PlainScan.CommandLine.Invocation
import PlainScan.Config.Document
import PlainScan.Report.Table
import PlainScan.Scan.Services

namespace PlainScan.CommandLine

/-!
# Running a command

* `CommandOutcome` — what is printed, the file that is written, and the exit code.
* `scanCommand` — a scan and its report.
* `runCommand` — whatever the arguments ask for; `settingsPaths` are the files it looks at.
-/

/-! ### Outcomes -/

/-- What a command does: it prints a text, writes a file, prints what it has to say about that,
    complains, and ends with an exit code. -/
structure CommandOutcome where
  printed : String := ""
  file : Option (String × String) := none
  closing : String := ""
  complaint : String := ""
  exitCode : UInt32 := 0
  deriving DecidableEq, Repr, Inhabited

/-- All that a command prints. -/
def CommandOutcome.output (c : CommandOutcome) : String := c.printed ++ c.closing

/-- What a command does, unless it crashes, and the file system afterwards. -/
structure CommandRun where
  outcome : Option CommandOutcome
  host : Host
  deriving Inhabited

/-! ### Reports -/

/-- The version of the program. -/
def versionText : String := "lumenclew, version 0.1.0\n"

/-- The number of columns of the console. -/
def consoleWidth : Nat := 120

/-- The outcome of a scan that was to be written as JSON, to a file or on the console. -/
def jsonOutcome (output : Option String) (response : ScanResponse) : CommandOutcome :=
  match output with
  | some path =>
    { file := some (path, response.jsonText), closing := "Report written to " ++ path ++ "\n" }
  | none => { printed := response.jsonText ++ "\n" }

/-- The outcome of a scan that was to be shown as tables, which a file may go along with. -/
def tableOutcome? (output : Option String) (response : ScanResponse) : Option CommandOutcome :=
  (response.tableText? consoleWidth).map fun text =>
    match output with
    | some path =>
      { printed := text, file := some (path, response.jsonText)
        closing := "JSON report also written to " ++ path ++ "\n" }
    | none => { printed := text }

/-- The outcome of a scan. -/
def reportOutcome? (options : ScanOptions) (response : ScanResponse) : Option CommandOutcome :=
  let outcome := match options.format with
    | .json => some (jsonOutcome options.output response)
    | .table => tableOutcome? options.output response
  outcome.map fun c => { c with exitCode := if response.status = .error then 1 else 0 }

/-! ### Commands -/

/-- Scans a repository with the settings that are found, and reports. -/
def scanCommand (find : PathLookup) (s : Surroundings) (options : ScanOptions)
    (host : Host) : CommandRun :=
  match Config.load find options.config (some ".") with
  | .error fault =>
    if fault.isForeseen then
      ⟨some { complaint := "Error: " ++ fault.message ++ "\n", exitCode := 1 }, host⟩
    else ⟨none, host⟩
  | .ok config =>
    let request : ScanRequest := ⟨options.url, options.client, options.mode⟩
    let run := scan (.ordinary config s) request ⟨config.maxScansPerDay, []⟩ host
    ⟨run.response.bind (reportOutcome? options), run.host⟩

/-- Does what the arguments ask for. -/
def runCommand (find : PathLookup) (s : Surroundings) (arguments : List String)
    (host : Host) : CommandRun :=
  match Invocation.ofArguments arguments with
  | .error fault =>
    if fault.error.isForeseen then ⟨some { complaint := fault.text, exitCode := 2 }, host⟩
    else ⟨none, host⟩
  | .ok .nothing => ⟨some { complaint := Page.help .program, exitCode := 2 }, host⟩
  | .ok .version => ⟨some { printed := versionText }, host⟩
  | .ok (.help page) => ⟨some { printed := page.help }, host⟩
  | .ok (.scan options) => scanCommand find s options host

/-- Where settings are looked for. -/
def settingsPaths (arguments : List String) : List FilePath :=
  match Invocation.ofArguments arguments with
  | .ok (.scan options) =>
    [FilePath.parse (options.config.getD ""), FilePath.parse Config.standardName]
  | _ => []

end PlainScan.CommandLine

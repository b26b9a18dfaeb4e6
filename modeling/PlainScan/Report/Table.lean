import PlainScan.Console.Table
import PlainScan.Report.Basic

namespace PlainScan

/-!
# Reports on a console

Every line is written with style marks.  The address of the repository and the orientation note may
hold marks of their own; all other texts are protected.

* `PanelResult.consoleText?` — the table of a panel, or a line where it has no findings.
* `ScanReport.summary?` — the figures at the end of a report.
* `ScanResponse.tableText?` — the whole response.  Findings whose text is not a text cannot be
  shown, nor can marks that close nothing.
-/

open PlainScan.Console (plainText? printLines printMarked? printText protect styled)

/-! ### Styles -/

/-- The style of an importance. -/
def Importance.style : Importance → String
  | .important => "bold red"
  | .explore => "yellow"
  | .note => "cyan"
  | .fyi => "dim"

/-- The style of the status of a panel. -/
def PanelStatus.style : PanelStatus → String
  | .success => "green"
  | .incomplete => "yellow"
  | .skipped => "red"

/-- The style of the status of a report. -/
def ReportStatus.style : ReportStatus → String
  | .success => "bold green"
  | .incomplete => "bold yellow"
  | .error => "bold red"

/-- Some texts, one after the other, if all are there. -/
def joined? (texts : List (Option (List Char))) : Option (List Char) :=
  (texts.mapM id).map List.flatten

/-! ### Panels -/

/-- The heading of a panel. -/
def PanelResult.headline (key : Panel) (r : PanelResult) : List Char :=
  (key.title ++ " - ").toList ++ styled r.status.style r.status.name.toList
    ++ (" (" ++ intText r.findingCount ++ " found, " ++ natText r.findings.length
      ++ " shown)").toList

/-- The row of a finding. -/
def TranslatedFinding.row? (f : TranslatedFinding) : Option (List (List Char)) :=
  f.plainLanguage.str?.bind fun text =>
    [styled f.importance.style f.importance.name.toList, protect text.toList,
      protect (f.note.getD "").toList].mapM plainText?

/-- The columns of a table of findings. -/
def findingColumns : List Console.Column :=
  [⟨"Importance".toList, 10⟩, ⟨"Finding".toList, 60⟩, ⟨"Note".toList, 30⟩]

/-- The table of findings of a panel. -/
def PanelResult.table? (key : Panel) (r : PanelResult) : Option Console.Table :=
  match plainText? (r.headline key), r.findings.mapM TranslatedFinding.row? with
  | some title, some rows => some ⟨title, findingColumns, rows⟩
  | _, _ => none

/-- What is told about a panel besides its findings. -/
def PanelResult.remark? (width : Nat) (r : PanelResult) : Option (List Char) :=
  match r.errorMessage with
  | none => some []
  | some message =>
    if message.isEmpty then some []
    else printMarked? width ("  ".toList ++ styled r.status.style (protect message.toList))

/-- A panel as it is printed. -/
def PanelResult.consoleText? (width : Nat) (key : Panel) (r : PanelResult) :
    Option (List Char) :=
  let body :=
    if r.findings.isEmpty then printMarked? width (styled "bold" (r.headline key))
    else (r.table? key).map fun table => printLines table.lines
  joined? [body, r.remark? width, some (printText width [])]

/-! ### Reports -/

/-- The lines above the panels. -/
def ScanReport.opening? (width : Nat) (r : ScanReport) : Option (List Char) :=
  let address := ['\n'] ++ styled "bold" r.repoUrl.toList
    ++ (" (" ++ r.mode.name ++ " scan) - ").toList ++ styled r.status.style r.status.name.toList
  joined?
    [printMarked? width address,
      printMarked? width (styled "dim" r.orientationNote.toList ++ ['\n'])]

/-- A duration in seconds, with two decimals. -/
def secondsText (milliseconds : Int) : String :=
  (Binary64.ofQuotient milliseconds 1000).fixedText 2

/-- The first line of the summary. -/
def ScanReport.totals (r : ScanReport) : String :=
  let found := (r.panels.map (·.findingCount)).foldl (· + ·) 0
  let shown := (r.panels.map (·.findings.length)).foldl (· + ·) 0
  " " ++ intText found ++ " finding(s), " ++ natText shown ++ " shown | Duration: "
    ++ secondsText r.duration ++ "s"

/-- The second line of the summary. -/
def ScanScope.totals (s : ScanScope) : String :=
  "Files: " ++ intText s.filesCounted ++ " counted | " ++ intText s.filesScanned ++ " scanned | "
    ++ intText s.filesSkipped ++ " skipped (limit " ++ intText s.maxFilesAllowed ++ ")"

/-- The panels that are not complete. -/
def ScanReport.incompletePanels? (width : Nat) (r : ScanReport) : Option (List Char) :=
  if r.partialReasons.isEmpty then some []
  else
    joined? <|
      printMarked? width (styled "yellow" "Incomplete panels:".toList)
        :: r.partialReasons.map fun reason =>
          printMarked? width ("  - ".toList ++ protect reason.toList)

/-- How the client stands. -/
def quotaLine? (width : Nat) : Option QuotaState → Option (List Char)
  | none => some []
  | some state =>
    printMarked? width <|
      styled "dim" ("Scans remaining today: " ++ intText state.remaining ++ "/"
        ++ intText state.maxScansPerDay).toList

/-- The figures at the end of a report. -/
def ScanReport.summary? (width : Nat) (quota : Option QuotaState) (r : ScanReport) :
    Option (List Char) :=
  joined?
    [printMarked? width (styled "bold" "Summary:".toList ++ r.totals.toList),
      printMarked? width r.scope.totals.toList, r.incompletePanels? width, quotaLine? width quota,
      some (printText width [])]

/-- A report as it is printed. -/
def ScanReport.consoleText? (width : Nat) (quota : Option QuotaState) (r : ScanReport) :
    Option (List Char) :=
  joined?
    [r.opening? width, joined? (r.entries.map fun e => e.2.consoleText? width e.1),
      r.summary? width quota]

/-! ### Responses -/

/-- A response without a report as it is printed. -/
def failureText? (width : Nat) (status : ReportStatus) (error : Option ScanError) :
    Option (List Char) :=
  let detail := match error with
    | some e => (": " ++ e.code.name ++ " - ").toList ++ protect e.message.toList
    | none => []
  printMarked? width
    (['\n'] ++ styled status.style "Scan failed".toList ++ detail ++ ['\n'])

/-- A response as it is printed on a console of some width. -/
def ScanResponse.tableText? (r : ScanResponse) (width : Nat) : Option String :=
  let text := match r.report with
    | none => failureText? width r.status r.error
    | some report => report.consoleText? width r.rateLimit
  text.map String.ofList

end PlainScan

import PlainScan.Analysis.Basic
import PlainScan.Report.Basic
import PlainScan.Translation.Basic

namespace PlainScan

/-!
# From analyses to panels

* `panelResult` — the panel for an analysis and the translation of its findings.
* `partialReason?` — how a report mentions a panel that is not complete.
-/

/-! ### Panels -/

/-- How a panel came out, why, and what is told about it. -/
structure PanelVerdict where
  status : PanelStatus
  reason : Option StatusReason := none
  message : Option String := none
  deriving DecidableEq, Repr, Inhabited

/-- The verdict for an analysis that stopped early: without findings the panel is skipped. -/
def degradedVerdict (run : Analysis) : PanelVerdict :=
  { status := if run.findings.isEmpty then .skipped else .incomplete
    reason := some (run.reason.getD .toolError)
    message := run.error }

/-- The verdict for a translation that is not complete. -/
def translationVerdict (translation : PanelTranslation) : PanelVerdict :=
  let detail := (translation.reason.map TranslationFailure.name).getD "unknown"
  { status := .incomplete
    reason := some .translationError
    message := some ("Plain-language translation " ++ translation.status.name ++ " (" ++ detail
      ++ "); showing original findings where needed") }

/-- The verdict for an analysis of a part of the files. -/
def capVerdict (maxFiles : Int) : PanelVerdict :=
  { status := .incomplete
    reason := some .fileCapHit
    message := some ("Only the first " ++ intText maxFiles ++ " eligible files were analyzed") }

/-- The verdict on a panel; trouble with the analysis weighs more than trouble with the
    translation, and that more than a cap on the files. -/
def panelVerdict (run : Analysis) (translation : PanelTranslation) (capHit : Bool)
    (maxFiles : Int) : PanelVerdict :=
  if run.status = .degraded then degradedVerdict run
  else if translation.status ≠ .success then translationVerdict translation
  else if capHit && run.filesAnalyzed.isSome then capVerdict maxFiles
  else { status := .success }

/-- The panel for an analysis and the translation of its findings. -/
def panelResult (run : Analysis) (translation : PanelTranslation) (capHit : Bool)
    (maxFiles : Int) : PanelResult :=
  let verdict := panelVerdict run translation capHit maxFiles
  { panel := run.panel
    status := verdict.status
    findingCount := run.totalIssues
    findings := translation.findings
    reason := verdict.reason
    errorMessage := verdict.message }

/-! ### Mentions -/

/-- How a report mentions a panel that is not complete. -/
def partialReason? (key : Panel) (r : PanelResult) : Option String :=
  match r.status, r.reason with
  | .success, _ => none
  | _, none => none
  | _, some reason =>
    let detail := match r.errorMessage with
      | some message => if message.isEmpty then "" else " (" ++ message ++ ")"
      | none => ""
    some (key.name ++ ": " ++ reason.name ++ detail)

theorem partialReason?_of_success (key : Panel) {r : PanelResult} (h : r.status = .success) :
    partialReason? key r = none := by
  simp [partialReason?, h]

end PlainScan

namespace PlainScan

/-!
# Panels

A report has four panels, one for each kind of analysis.

* `Panel` — the panels, in the order of the report (`Panel.all`).
* `PanelStatus`, `StatusReason` — how a panel came out, and why it is not complete.
-/

/-- A part of the report. -/
inductive Panel where
  | codeQuality
  | dependencies
  | secrets
  | accessibility
  deriving DecidableEq, Repr, Inhabited

/-- How a panel came out. -/
inductive PanelStatus where
  | success
  | incomplete
  | skipped
  deriving DecidableEq, Repr, Inhabited

/-- Why a panel is not complete. -/
inductive StatusReason where
  | timeout
  | toolError
  | missingManifest
  | translationError
  | fileCapHit
  deriving DecidableEq, Repr, Inhabited

namespace Panel

/-- The panels in the order of the report. -/
def all : List Panel := [codeQuality, dependencies, secrets, accessibility]

/-- The word for a panel. -/
def name : Panel → String
  | codeQuality => "code_quality"
  | dependencies => "dependencies"
  | secrets => "secrets"
  | accessibility => "accessibility"

/-- The key of a panel in a report. -/
def reportKey : Panel → String
  | codeQuality => "codeQuality"
  | dependencies => "dependencies"
  | secrets => "secrets"
  | accessibility => "accessibility"

/-- The heading of a panel. -/
def title : Panel → String
  | codeQuality => "Code Quality"
  | dependencies => "Dependencies"
  | secrets => "Secrets"
  | accessibility => "Accessibility"

/-- The panel that a word stands for. -/
def ofName? (text : String) : Option Panel := all.find? fun p => p.name == text

theorem mem_all (p : Panel) : p ∈ all := by cases p <;> decide

end Panel

namespace PanelStatus

/-- The word for a status. -/
def name : PanelStatus → String
  | success => "success"
  | incomplete => "partial"
  | skipped => "skipped"

/-- All statuses. -/
def all : List PanelStatus := [success, incomplete, skipped]

/-- The status that a word stands for. -/
def ofName? (text : String) : Option PanelStatus := all.find? fun s => s.name == text

end PanelStatus

namespace StatusReason

/-- The word for a reason. -/
def name : StatusReason → String
  | timeout => "timeout"
  | toolError => "tool_error"
  | missingManifest => "missing_manifest"
  | translationError => "translation_error"
  | fileCapHit => "file_cap_hit"

/-- All reasons. -/
def all : List StatusReason := [timeout, toolError, missingManifest, translationError, fileCapHit]

/-- The reason that a word stands for. -/
def ofName? (text : String) : Option StatusReason := all.find? fun r => r.name == text

end StatusReason

end PlainScan

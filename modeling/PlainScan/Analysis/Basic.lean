import PlainScan.Config.Basic
import PlainScan.Finding.Basic
import PlainScan.Finding.Identity
import PlainScan.Json.Reader
import PlainScan.WorkingArea

namespace PlainScan

/-!
# Analyses

* `Collector` — counts every issue and keeps the first ones with distinct identifiers, up to a
  cap.
* `Analysis` — the outcome of one analyzer: complete, or degraded with a reason and a message.
* `Crash` — what stops an analyzer in the middle; `AnalyzerInfo.ofResult` turns it into a degraded
  outcome.
* `identified` — the findings in a file, if they can be given identifiers.
-/

/-! ### Collecting -/

/-- Counts every issue but keeps only the first distinct ones. -/
structure Collector where
  cap : Nat
  kept : List RawFinding := []
  total : Nat := 0
  deriving Inhabited

namespace Collector

/-- Takes note of one more issue. -/
def add (c : Collector) (finding : RawFinding) : Collector :=
  let known := c.kept.any fun f => f.id == finding.id
  if known || c.cap ≤ c.kept.length then { c with total := c.total + 1 }
  else { c with kept := c.kept ++ [finding], total := c.total + 1 }

/-- Takes note of several issues in order. -/
def addAll (c : Collector) (findings : List RawFinding) : Collector := findings.foldl add c

theorem total_add (c : Collector) (f : RawFinding) : (c.add f).total = c.total + 1 := by
  unfold add
  dsimp only
  split <;> rfl

theorem cap_add (c : Collector) (f : RawFinding) : (c.add f).cap = c.cap := by
  unfold add
  dsimp only
  split <;> rfl

end Collector

/-! ### Outcomes -/

/-- Whether an analyzer came to its end. -/
inductive AnalysisStatus where
  | completed
  | degraded
  deriving DecidableEq, Repr, Inhabited

/-- The word for a status. -/
def AnalysisStatus.name : AnalysisStatus → String
  | completed => "completed"
  | degraded => "degraded"

/-- The outcome of one analyzer. -/
structure Analysis where
  analyzer : String
  panel : Panel
  findings : List RawFinding := []
  totalIssues : Nat := 0
  status : AnalysisStatus := .completed
  reason : Option StatusReason := none
  error : Option String := none
  filesAnalyzed : Option Nat := none
  deriving Inhabited

/-- The name of an analyzer and the panel it fills. -/
structure AnalyzerInfo where
  name : String
  panel : Panel
  deriving Repr, Inhabited

namespace AnalyzerInfo

/-- The outcome of an analyzer that came to its end. -/
def completed (a : AnalyzerInfo) (c : Collector) (filesAnalyzed : Option Nat := none) : Analysis :=
  { analyzer := a.name, panel := a.panel, findings := c.kept, totalIssues := c.total,
    filesAnalyzed := filesAnalyzed }

/-- The outcome of an analyzer that stopped early, with what it had found. -/
def stopped (a : AnalyzerInfo) (reason : StatusReason) (error : String) (c : Collector)
    (filesAnalyzed : Option Nat) : Analysis :=
  { analyzer := a.name, panel := a.panel, findings := c.kept, totalIssues := c.total,
    status := .degraded, reason := some reason, error := some error,
    filesAnalyzed := filesAnalyzed }

/-- The outcome of an analyzer that found nothing because something went wrong. -/
def failed (a : AnalyzerInfo) (reason : StatusReason) (error : String) : Analysis :=
  a.stopped reason error ⟨0, [], 0⟩ none

end AnalyzerInfo

/-! ### Crashes -/

/-- What stops an analyzer or a translation in the middle: data of a shape it cannot handle, a text
    beyond a limit of the reader of JSON texts, an identity that cannot be hashed, or a failure of a
    tool with a text of its own. -/
inductive Crash where
  | malformedData
  | unreadable (limit : Json.ReadLimit)
  | unencodable
  | toolFailure (text : String)
  deriving DecidableEq, Repr, Inhabited

/-- How a crash is reported.  Behind the first words the text of the failure follows; only the one
    that a tool brings along is kept, for those of the run-time system are left out. -/
def Crash.message : Crash → String
  | toolFailure text => "Unexpected error: " ++ text
  | _ => "Unexpected error"

/-- The findings in a file, unless there are any and the path cannot be encoded.  It is the one part
    of their identities of which this may be so. -/
def identified (path : String) (found : List RawFinding) : Except Crash (List RawFinding) :=
  if found.isEmpty || Text.isEncodable path then .ok found else .error .unencodable

/-- A crash becomes a degraded outcome without findings. -/
def AnalyzerInfo.ofResult (a : AnalyzerInfo) : Except Crash Analysis → Analysis
  | .ok analysis => analysis
  | .error crash => a.failed .toolError crash.message

end PlainScan

import PlainScan.Analysis.Accessibility
import PlainScan.Analysis.Audit
import PlainScan.Analysis.Lint
import PlainScan.Analysis.Secrets

namespace PlainScan

/-!
# The analyzers

* `Analyzer` — the four of them, in the order in which they run (`Analyzer.all`).
* `Analyzer.timeout` — the time each is given.
* `Analyzer.run` — the outcome of one, a crash included.
-/

/-- An analyzer, one for each panel. -/
inductive Analyzer where
  | lint
  | audit
  | secrets
  | accessibility
  deriving DecidableEq, Repr, Inhabited

/-- What the analyzers meet outside of the working area. -/
structure Tools where
  lint : ToolOutcome
  audit : ToolOutcome
  clockStep : Number := Deadline.naturalStep
  deriving Inhabited

namespace Analyzer

/-- All analyzers in the order in which they run. -/
def all : List Analyzer := [lint, audit, secrets, accessibility]

/-- The name of an analyzer and its panel. -/
def info : Analyzer → AnalyzerInfo
  | lint => Lint.info
  | audit => Audit.info
  | secrets => Secrets.info
  | accessibility => Accessibility.info

/-- The analyzer that a name stands for. -/
def ofName? (text : String) : Option Analyzer := all.find? fun a => a.info.name == text

/-- The time that the settings give an analyzer. -/
def timeout (config : Config) : Analyzer → Number
  | lint => config.lintTimeout
  | audit => config.auditTimeout
  | secrets => config.secretsTimeout
  | accessibility => config.accessibilityTimeout

/-- The outcome of an analyzer, or the crash that stopped it. -/
def analyze (config : Config) (area : WorkingArea) (tools : Tools) (timeout : Number) :
    Analyzer → Except Crash Analysis
  | lint => Lint.analyze config area timeout tools.lint
  | audit => Audit.analyze config area tools.audit
  | secrets => Secrets.analyze config area ⟨tools.clockStep, timeout⟩
  | accessibility => Accessibility.analyze config area ⟨tools.clockStep, timeout⟩

/-- The outcome of an analyzer; a crash counts as a degraded outcome. -/
def run (config : Config) (area : WorkingArea) (tools : Tools) (timeout : Number)
    (a : Analyzer) : Analysis :=
  a.info.ofResult (a.analyze config area tools timeout)

end Analyzer

end PlainScan

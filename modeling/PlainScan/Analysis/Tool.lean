import PlainScan.Number.Decimal
import PlainScan.Text.Blank
import PlainScan.Text.Lines

namespace PlainScan

/-!
# External tools

* `ToolOutcome` — how the run of a tool ended.
* `ToolOutput.failureText` — the last line of what the tool wrote to its error stream, or its
  exit code.
-/

/-- What a tool that came to its end left behind. -/
structure ToolOutput where
  stdout : String
  stderr : String
  exitCode : Int
  deriving Repr, Inhabited

/-- How the run of a tool ended. -/
inductive ToolOutcome where
  | finished (output : ToolOutput)
  | timedOut
  | notStarted (text : String)
  | failed (text : String)
  | neverEnds
  deriving Repr, Inhabited

/-- Whether a run has no end. -/
def ToolOutcome.isEndless : ToolOutcome → Bool
  | neverEnds => true
  | _ => false

namespace ToolOutput

/-- Whether the tool wrote nothing but blanks. -/
def isSilent (output : ToolOutput) : Bool := Text.isBlankText output.stdout.toList

/-- Why the tool failed, as far as it tells. -/
def failureText (output : ToolOutput) : String :=
  match Text.lastLine (Text.strip output.stderr.toList) with
  | some line => String.ofList line
  | none => "exit code " ++ intText output.exitCode

end ToolOutput

end PlainScan

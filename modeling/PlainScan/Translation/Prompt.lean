import PlainScan.Config.Basic
import PlainScan.Finding.Basic
import PlainScan.Json.Printer

namespace PlainScan

/-!
# Requests to the model

* `systemPrompt` — who the model is to be, for each panel.
* `userPrompt` — what it is asked to translate.
* `ModelRequest` — a whole request.
-/

/-! ### The role -/

/-- What holds for every panel. -/
def mentorPrompt : String :=
  "You are a supportive code mentor helping developers understand their codebase.\n"
  ++ "Your tone is warm, educational, and encouraging - "
  ++ "like a senior developer guiding a colleague.\n"
  ++ "Never use shame, fear, or urgency. Focus on awareness and reflection, not directives.\n"
  ++ "Always acknowledge that static analysis has limitations and context matters."

/-- What holds for one panel. -/
def panelPrompt : Panel → String
  | .codeQuality =>
    "You're translating ESLint findings about code quality and maintainability.\n"
    ++ "Focus on:\n"
    ++ "- Why consistent patterns help teams collaborate\n"
    ++ "- How certain patterns might affect future maintenance\n"
    ++ "- The trade-offs between different approaches\n"
    ++ "Acknowledge that style choices are often team decisions, not universal truths."
  | .dependencies =>
    "You're translating npm audit findings about dependency vulnerabilities.\n"
    ++ "Focus on:\n"
    ++ "- What the vulnerability means in plain language\n"
    ++ "- Whether it's likely to affect this specific project "
    ++ "(many vulnerabilities require specific conditions)\n"
    ++ "- How dependency updates work and their trade-offs\n"
    ++ "Normalize that all projects have some vulnerabilities - "
    ++ "it's about informed prioritization."
  | .secrets =>
    "You're translating findings about potential secrets or credentials in code.\n"
    ++ "Focus on:\n"
    ++ "- What was detected and why it might be sensitive\n"
    ++ "- That false positives are common (test data, example values, etc.)\n"
    ++ "- General best practices for credential management\n"
    ++ "Remove any shame - accidental commits happen to everyone. Focus on awareness."
  | .accessibility =>
    "You're translating accessibility findings from static analysis.\n"
    ++ "Focus on:\n"
    ++ "- Who might be affected and how\n"
    ++ "- The underlying accessibility principle\n"
    ++ "- That automated tools catch ~30% of issues - manual testing matters too\n"
    ++ "Add context that accessibility is a journey, not a checklist."

/-- Who the model is to be for a panel. -/
def systemPrompt (panel : Panel) : String := mentorPrompt ++ "\n\n" ++ panelPrompt panel

/-! ### The task -/

/-- The written forms of findings, as the model gets them. -/
def findingsText (findings : List RawFinding) : String :=
  Json.indented (.arr (findings.map RawFinding.toJson))

/-- What the model is asked to translate. -/
def userPrompt (panel : Panel) (findings : List RawFinding) : String :=
  "Translate these " ++ panel.name ++ " findings into warm, educational language.\n\n"
  ++ "For each finding, return a JSON object with:\n"
  ++ "- id: the id of the finding you are translating, unchanged\n"
  ++ "- plainLanguage: A clear, jargon-free explanation (1-2 sentences)\n"
  ++ "- context: Why this matters and what it might affect\n"
  ++ "- reflection: A thoughtful question or consideration for the developer\n"
  ++ "- commonApproaches: (optional) Array of 2-3 common ways teams handle this\n\n"
  ++ "Return only a JSON array of translated findings, in the same order as the input.\n\n"
  ++ "Findings to translate:\n"
  ++ findingsText findings

/-! ### Requests -/

/-- A request to the model. -/
structure ModelRequest where
  panel : Panel
  model : String
  maxTokens : Nat
  timeout : Number
  systemText : String
  userText : String
  deriving Inhabited

/-- The request for the findings of a panel. -/
def ModelRequest.forPanel (config : Config) (panel : Panel) (findings : List RawFinding) :
    ModelRequest :=
  { panel := panel
    model := config.model
    maxTokens := config.maxTokens
    timeout := config.translationTimeout
    systemText := systemPrompt panel
    userText := userPrompt panel findings }

end PlainScan

import PlainScan.Translation.Candidates
import PlainScan.Translation.Prompt
import PlainScan.Translation.Validation

namespace PlainScan

/-!
# Translation

Every finding comes back: in the words of the model where its reply holds good ones, and as it
was otherwise.

* `ModelReply` — what the model answers, or how asking it failed.
* `ModelAccess` — whether there is a model to ask.
* `PanelTranslation` — the translated findings of a panel and how the translation came out.
* `translatePanel`, `translatePanels` — one panel, and all of them.
-/

/-! ### The model -/

/-- A part of a reply; only texts count. -/
structure ReplyBlock where
  isText : Bool
  text : String
  deriving Repr, Inhabited

/-- What the model answers, or how asking it failed. -/
inductive ModelReply where
  | blocks (parts : List ReplyBlock)
  | timedOut
  | disconnected
  | refused
  | broken
  deriving Repr, Inhabited

/-- Whether there is a model to ask: one that was handed over, one to be reached with a key, or
    none. -/
inductive ModelAccess where
  | given
  | withKey (key : String)
  | none
  deriving DecidableEq, Repr, Inhabited

/-! ### Outcomes -/

/-- How many findings were translated: all, some or none. -/
inductive TranslationStatus where
  | success
  | incomplete
  | failed
  deriving DecidableEq, Repr, Inhabited

/-- Why a translation is not complete. -/
inductive TranslationFailure where
  | missingKey
  | timeout
  | refused
  | emptyReply
  | unusableItems
  | unexpected
  deriving DecidableEq, Repr, Inhabited

/-- The word for a status. -/
def TranslationStatus.name : TranslationStatus → String
  | success => "success"
  | incomplete => "partial"
  | failed => "failed"

/-- All statuses. -/
def TranslationStatus.all : List TranslationStatus := [success, incomplete, failed]

/-- The word for a failure. -/
def TranslationFailure.name : TranslationFailure → String
  | missingKey => "MISSING_API_KEY"
  | timeout => "CLAUDE_TIMEOUT"
  | refused => "CLAUDE_API_ERROR"
  | emptyReply => "EMPTY_RESPONSE"
  | unusableItems => "PARTIAL_PARSE"
  | unexpected => "UNEXPECTED_ERROR"

/-- All failures. -/
def TranslationFailure.all : List TranslationFailure :=
  [missingKey, timeout, refused, emptyReply, unusableItems, unexpected]

/-- The translation of a panel. -/
structure PanelTranslation where
  panel : Panel
  status : TranslationStatus
  findings : List TranslatedFinding := []
  reason : Option TranslationFailure := none
  truncated : Bool := false
  countBefore : Nat := 0
  translatedCount : Nat := 0
  deriving Inhabited

/-! ### Replies -/

/-- The texts of a reply, one after another. -/
def replyText (parts : List ReplyBlock) : List Char :=
  (parts.filter (·.isText)).flatMap fun b => b.text.toList

/-- The text of a reply, or why there is none. -/
def ModelReply.text : ModelReply → Except TranslationFailure (List Char)
  | blocks parts =>
    let text := replyText parts
    if Text.isBlankText text then .error .emptyReply else .ok text
  | timedOut => .error .timeout
  | disconnected => .error .refused
  | refused => .error .refused
  | broken => .error .unexpected

/-! ### Findings -/

/-- The note on a finding for which the reply held nothing usable. -/
def unusableNote : String := "Partial translation - showing original finding."

/-- The note on findings that could not be translated at all. -/
def failureNote (reason : TranslationFailure) : String :=
  "Translation unavailable (" ++ reason.name ++ "). Showing original finding."

/-- Findings one by one, unless one of them crashes. -/
def mapFindings (translate : α → Except Crash TranslatedFinding) :
    List α → Except Crash (List TranslatedFinding)
  | [] => .ok []
  | x :: rest =>
    match translate x, mapFindings translate rest with
    | .ok here, .ok more => .ok (here :: more)
    | .error crash, _ => .error crash
    | _, .error crash => .error crash

/-- A finding with its candidate. -/
def translateOne (pair : RawFinding × Option Json) : Except Crash TranslatedFinding :=
  match pair.2.bind fun candidate => validateCandidate candidate pair.1 with
  | some translated => .ok translated
  | none => fallback pair.1 unusableNote

/-- How the translation of a panel came out, by the numbers of translated and of all findings. -/
def outcomeOf (translated all : Nat) : TranslationStatus × Option TranslationFailure :=
  if translated = all then (.success, none)
  else if 0 < translated then (.incomplete, some .unusableItems)
  else (.failed, some .unusableItems)

/-- The translation of findings by the candidates of a reply. -/
def translateBy (panel : Panel) (capped : CappedFindings) (candidates : List Json) :
    Except Crash PanelTranslation :=
  let ids := capped.findings.map RawFinding.id
  let pairs := capped.findings.zip (candidatesFor ids candidates)
  match mapFindings translateOne pairs with
  | .error crash => .error crash
  | .ok findings =>
    let count := (findings.filter fun f => !f.isFallback).length
    let (status, reason) := outcomeOf count capped.findings.length
    .ok
      { panel := panel, status := status, findings := findings, reason := reason,
        truncated := capped.truncated, countBefore := capped.countBefore,
        translatedCount := count }

/-- The translation of findings by the text of a reply. -/
def translateWith (panel : Panel) (capped : CappedFindings) (text : List Char) :
    Except Crash PanelTranslation :=
  match candidatesOf text with
  | .ok candidates => translateBy panel capped candidates
  | .error limit => .error (.unreadable limit)

/-- The findings as they are, because there is no reply. -/
def translateWithout (panel : Panel) (capped : CappedFindings) (reason : TranslationFailure) :
    Except Crash PanelTranslation :=
  match mapFindings (fun raw => fallback raw (failureNote reason)) capped.findings with
  | .error crash => .error crash
  | .ok findings =>
    .ok
      { panel := panel, status := .failed, findings := findings, reason := some reason,
        truncated := capped.truncated, countBefore := capped.countBefore }

/-! ### Panels -/

/-- The request that was made for a panel, if any, and what came of it. -/
structure TranslationRun where
  request : Option ModelRequest
  result : Except Crash PanelTranslation
  deriving Inhabited

/-- The translation of the findings of a panel. -/
def translatePanel (config : Config) (access : ModelAccess) (model : Panel → ModelReply)
    (panel : Panel) (findings : List RawFinding) : TranslationRun :=
  if findings.isEmpty then ⟨none, .ok { panel := panel, status := .success }⟩
  else
    let capped := keepGravest findings config.maxFindingsPerPanel
    if access = .none then ⟨none, translateWithout panel capped .missingKey⟩
    else
      let request := ModelRequest.forPanel config panel capped.findings
      match (model panel).text with
      | .ok text => ⟨some request, translateWith panel capped text⟩
      | .error reason => ⟨some request, translateWithout panel capped reason⟩

/-- The translations of all panels in the order of the report. -/
def translatePanels (config : Config) (access : ModelAccess) (model : Panel → ModelReply)
    (findings : Panel → List RawFinding) : List TranslationRun :=
  Panel.all.map fun panel => translatePanel config access model panel (findings panel)

/-- The key with which a model is reached, one that is given before the one outside. -/
def accessFor (hasModel : Bool) (givenKey outsideKey : Option String) : ModelAccess :=
  if hasModel then .given
  else
    match Environment.nonEmpty givenKey, Environment.nonEmpty outsideKey with
    | some key, _ => .withKey key
    | none, some key => .withKey key
    | none, none => .none

end PlainScan

import PlainScan.Analysis.Basic
import PlainScan.Analysis.Headings
import PlainScan.Text.Lines

namespace PlainScan.Accessibility

/-!
# Accessibility

Searches pages for elements that people with disabilities cannot use well.

* `Check` — a pattern and what it means; `checks` lists them in order.
* `contentFindings` — the findings in the text of a page, those on headings last; `scanContent`
  fails where they cannot be given identifiers.
* `analyze` — the outcome for a working area.
-/

open Pattern

/-- The search fills the panel on accessibility. -/
def info : AnalyzerInfo := ⟨"a11y_analyzer", .accessibility⟩

/-! ### Parts of tags -/

/-- The opening of a tag, its name given in lower case. -/
def openingTag (name : String) : Pattern := all [literal "<", literalAnyCase name, wordEdge]

/-- A name inside a tag, an equals sign after it. -/
def attributeNamed (name : Pattern) : Pattern :=
  all [insideTag, wordEdge, name, blanks, literal "="]

/-- The rest of a tag. -/
def restOfTag : Pattern := all [insideTag, literal ">"]

/-- A tag without any of the attributes. -/
def tagWithout (tag : String) (attributes : List String) : Pattern :=
  all [openingTag tag, absent (attributeNamed (any (attributes.map literalAnyCase))), restOfTag]

/-- An element without text: other tags may stand in it, blanks before each of them. -/
def emptyElement (tag : String) : Pattern :=
  all [openingTag tag, restOfTag,
    star (all [blanks, literal "<", run (· != '>') 1, literal ">"]),
    blanks, literal "</", literalAnyCase tag, literal ">"]

/-- A heading of a level without anything but blanks. -/
def emptyHeading (level : String) : Pattern :=
  all [literal "<", literalAnyCase "h", literal level, wordEdge, restOfTag, blanks,
    literal "</", literalAnyCase "h", literal level, literal ">"]

/-- A tag other than a button that plays the role of one. -/
def buttonRole : Pattern :=
  all [literal "<", absent (all [literalAnyCase "button", wordEdge]), one isLetterAnyCase,
    run (fun c => isLetterAnyCase c || c.isDigit) 0, wordEdge, insideTag, wordEdge,
    literalAnyCase "role", blanks, literal "=", blanks, quoteMark, literalAnyCase "button",
    quoteMark, restOfTag]

/-! ### Checks -/

/-- A pattern and what it means. -/
structure Check where
  id : String
  name : String
  severity : Severity
  message : String
  pattern : Pattern
  deriving Inhabited

/-- All checks in order. -/
def checks : List Check :=
  [⟨"missing_alt", "Missing Alt Text", .high,
      "Image missing alt attribute for screen readers", tagWithout "img" ["alt"]⟩,
    ⟨"non_semantic_button_div", "Non-semantic Button (div)", .high,
      "Div with onClick should be a button element for keyboard accessibility",
        all [openingTag "div", attributeNamed (literalAnyCase "onclick")]⟩,
    ⟨"non_semantic_button_role", "Non-semantic Button (role)", .high,
      "Element with role=\"button\" should be a native button element", buttonRole⟩,
    ⟨"missing_aria_label", "Missing ARIA Label", .medium,
      "Interactive element has no text content and may need aria-label for screen reader context",
      any [emptyElement "button", emptyElement "a"]⟩,
    ⟨"link_without_href", "Link Without Href", .medium,
      "Anchor tag missing href attribute - not keyboard navigable", tagWithout "a" ["href"]⟩,
    ⟨"input_without_label", "Input Without Label", .medium,
      "Input element missing associated label or aria-label",
      tagWithout "input" ["id", "aria-label", "aria-labelledby"]⟩,
    ⟨"empty_heading", "Empty Heading", .low,
      "Empty heading element - provides no content for screen readers",
      any (["1", "2", "3", "4", "5", "6"].map emptyHeading)⟩]

/-- How much of a match a finding shows. -/
def shownLength : Nat := 100

/-- The name under which skipped headings are reported. -/
def headingCheck : String := "heading_hierarchy"

/-! ### Pages -/

/-- The fields that a finding of a check at a line of a page is known by. -/
def identity (check : String) (path : String) (line : Nat) : List Json :=
  [.str info.panel.name, .str info.name, .str check, .str path, .int line]

/-- The identifier of a finding of a check at a line of a page. -/
def findingIdAt (check : String) (path : String) (line : Nat) : String :=
  findingId (identity check path line)

/-- The finding for a match of a check. -/
def checkFinding (path : String) (check : Check) (m : Occurrence) : RawFinding :=
  { id := findingIdAt check.id path m.start.line
    panel := info.panel
    tool := info.name
    severity := check.severity
    message := .str check.message
    file := some path
    line := .int m.start.line
    metadata :=
      [("patternId", .str check.id), ("patternName", .str check.name),
        ("matchedText", .str (String.ofList (m.text.take shownLength)))] }

/-- The findings of a check in the text of a page. -/
def checkFindings (path : String) (text : List Char) (check : Check) : List RawFinding :=
  (check.pattern.findAll text).map (checkFinding path check)

/-- The level of a heading as a text. -/
def levelText (level : Nat) : String := "h" ++ natText level

/-- The finding for a skip in the headings. -/
def skipFinding (path : String) (skip : HeadingSkip) : RawFinding :=
  { id := findingIdAt headingCheck path skip.line
    panel := info.panel
    tool := info.name
    severity := .medium
    message := .str ("Heading hierarchy skip: " ++ levelText skip.previous ++ " followed by "
      ++ levelText skip.current ++ " (missing " ++ levelText skip.skipped ++ ")")
    file := some path
    line := .int skip.line
    metadata :=
      [("patternId", .str headingCheck), ("previousLevel", .int skip.previous),
        ("currentLevel", .int skip.current), ("skippedLevel", .int skip.skipped)] }

/-- The findings in the text of a page. -/
def contentFindings (path : String) (text : List Char) : List RawFinding :=
  checks.flatMap (checkFindings path text) ++ (headingSkips text).map (skipFinding path)

/-! ### Working areas -/

/-- The endings of pages. -/
def pageEndings : List String := [".jsx", ".tsx", ".html", ".htm"]

/-- Whether a file is a page. -/
def isPage (path : FilePath) : Bool := pageEndings.contains path.lowerSuffix

/-- The findings in the text of a page, if they can be given identifiers. -/
def scanContent (path : String) (text : List Char) : Except Crash (List RawFinding) :=
  identified path (contentFindings path text)

/-- The findings in a page of the working area, or nothing if it is above the size limit.  The limit
    has to be a number of bytes.  A page that the system refuses to read is passed over, so one
    above the limit stands for it. -/
def fileFindings (config : Config) (area : WorkingArea) (file : WalkedFile) :
    Except Crash (Option (List RawFinding)) :=
  match config.maxFileBytes? with
  | none => .error .malformedData
  | some limit =>
    if limit < file.content.length then .ok none
    else
      let text := Text.normaliseNewlines (Text.decodeLossy file.content)
      (scanContent (area.relative file.path).text text).map some

/-- The number of pages that were read, and the findings in them in order. -/
def filesFindings (config : Config) (area : WorkingArea) :
    List WalkedFile → Except Crash (Nat × List RawFinding)
  | [] => .ok (0, [])
  | file :: rest =>
    match fileFindings config area file, filesFindings config area rest with
    | .ok none, .ok more => .ok more
    | .ok (some here), .ok (count, more) => .ok (count + 1, here ++ more)
    | .error crash, _ => .error crash
    | _, .error crash => .error crash

/-- The outcome for a working area. -/
def analyze (config : Config) (area : WorkingArea) (deadline : Deadline) :
    Except Crash Analysis :=
  match area.walk? config.ignoredDirectories deadline with
  | none =>
    .ok (info.stopped .toolError "Directory not found" ⟨config.maxFindingsPerPanel, [], 0⟩
      (some 0))
  | some walk =>
    match filesFindings config area (walk.files.filter fun f => isPage f.path) with
    | .error crash => .error crash
    | .ok (count, found) =>
      let collector := (Collector.mk config.maxFindingsPerPanel [] 0).addAll found
      if walk.timedOut then
        .ok (info.stopped .timeout
          ("Accessibility scan timeout after " ++ deadline.timeout.generalText ++ "s") collector
          (some count))
      else .ok (info.completed collector (some count))

end PlainScan.Accessibility

import PlainScan.Analysis.Basic
import PlainScan.Text.Blank

namespace PlainScan

/-!
# Candidates and findings

How the candidates of a reply are paired with the findings they translate, and when a candidate
is good enough.

* `keepGravest` — the gravest findings, up to a number.
* `trim` — a text of bounded length.
* `validateCandidate` — the translated finding that a candidate gives.
* `placesFor`, `candidatesFor` — the candidate of each finding, and where it stands.
* `fallback` — the finding as it is, with a note.
-/

/-! ### The gravest findings -/

/-- The findings that are kept, whether any were dropped, and how many there were. -/
structure CappedFindings where
  findings : List RawFinding
  truncated : Bool
  countBefore : Nat
  deriving Inhabited

/-- At most `count` findings.  If some have to go, the gravest stay, in the order of their
    severity and otherwise as they were. -/
def keepGravest (findings : List RawFinding) (count : Nat) : CappedFindings :=
  if findings.length ≤ count then ⟨findings, false, findings.length⟩
  else
    let ordered := findings.mergeSort fun a b => decide (b.severity.rank ≤ a.severity.rank)
    ⟨ordered.take count, true, findings.length⟩

/-! ### Texts of bounded length -/

/-- The longest text that is shown. -/
def textLimit : Nat := 500

/-- What stands for the part of a text that is left out. -/
def ellipsis : List Char := ['.', '.', '.']

/-- The text, cut where it is too long. -/
def trim (text : List Char) : List Char :=
  if text.length ≤ textLimit then text
  else text.take (textLimit - ellipsis.length) ++ ellipsis

/-- The text of a value without the blanks around it, if it is a text that is not blank. -/
def shownText? (value : Json) : Option String :=
  match value with
  | .str s =>
    let text := s.toList
    if Text.isBlankText text then none else some (String.ofList (trim (Text.strip text)))
  | _ => none

/-! ### Validation -/

/-- The greatest number of approaches that are shown. -/
def maxApproaches : Nat := 5

/-- The approaches of a candidate, if it lists any. -/
def approachesOf (candidate : Json) : Option (List String) :=
  match candidate.field? "commonApproaches" with
  | some (.arr items) =>
    match (items.filterMap shownText?).take maxApproaches with
    | [] => none
    | shown => some shown
  | _ => none

/-- The translated finding that a candidate gives; it needs three texts.  Identifier, panel and
    importance come from the finding alone. -/
def validateCandidate (candidate : Json) (raw : RawFinding) : Option TranslatedFinding :=
  if !candidate.isObject then none
  else
    match shownText? (candidate.fieldD "plainLanguage"), shownText? (candidate.fieldD "context"),
      shownText? (candidate.fieldD "reflection") with
    | some plain, some context, some reflection =>
      some
        { id := raw.id
          panel := raw.panel
          plainLanguage := .str plain
          context := context
          importance := raw.severity.importance
          reflection := reflection
          commonApproaches := approachesOf candidate }
    | _, _, _ => none

/-! ### Matching -/

/-- The identifier that a candidate carries. -/
def namedId? (candidate : Json) : Option String := (candidate.field? "id").bind Json.str?

/-- Whether a candidate carries one of the identifiers. -/
def carriesId (ids : List String) (candidate : Json) : Bool :=
  match namedId? candidate with
  | some id => ids.contains id
  | none => false

/-- Takes note of where a candidate stands, if it is the first to carry one of the identifiers. -/
def noteName (ids : List String) (named : List (String × Nat)) (entry : Json × Nat) :
    List (String × Nat) :=
  match namedId? entry.1 with
  | some id =>
    if ids.contains id && (named.lookup id).isNone then named ++ [(id, entry.2)] else named
  | none => named

/-- The identifiers that the candidates carry, each with the place of the first one that does. -/
def namedPlaces (ids : List String) (candidates : List Json) : List (String × Nat) :=
  candidates.zipIdx.foldl (noteName ids) []

/-- Whether the candidate at a place may be given to the finding at that place: it is there and not
    null, it has not been used, and it belongs to no finding. -/
def isFree (ids : List String) (candidates : List Json) (used : List Nat) (place : Nat) : Bool :=
  !used.contains place
    && match candidates[place]? with
      | some .null => false
      | some candidate => !carriesId ids candidate
      | none => false

/-- The places of the candidates that findings are given, one finding after the other, when those at
    the places in `used` have been given away.  A finding that no candidate names is given the one
    at its own place if that is free. -/
def placesFrom (ids : List String) (candidates : List Json) (named : List (String × Nat))
    (used : List Nat) : List (String × Nat) → List (Option Nat)
  | [] => []
  | (id, index) :: rest =>
    match named.lookup id with
    | some place => some place :: placesFrom ids candidates named used rest
    | none =>
      if isFree ids candidates used index then
        some index :: placesFrom ids candidates named (index :: used) rest
      else none :: placesFrom ids candidates named used rest

/-- The place of the candidate that each finding is given, if it is given one.  The candidates that
    are named are given away first. -/
def placesFor (ids : List String) (candidates : List Json) : List (Option Nat) :=
  let named := namedPlaces ids candidates
  placesFrom ids candidates named (named.map (·.2)) ids.zipIdx

/-- The candidate of each finding, given their identifiers. -/
def candidatesFor (ids : List String) (candidates : List Json) : List (Option Json) :=
  (placesFor ids candidates).map fun place? => place?.bind fun place => candidates[place]?

/-! ### Fallbacks -/

/-- What a finding that was not translated asks the reader to do. -/
def standardReflection : String :=
  "Consider reviewing this in the context of your specific project needs."

/-- The message of a finding, cut where it is too long.  Only what has a length can be measured,
    and only texts can be cut. -/
def trimMessage (message : Json) : Except Crash Json :=
  match message with
  | .str s => .ok (.str (String.ofList (trim s.toList)))
  | .arr items => if items.length ≤ textLimit then .ok message else .error .malformedData
  | .obj fields => if fields.length ≤ textLimit then .ok message else .error .malformedData
  | _ => .error .malformedData

/-- The place of a finding as the fallback names it. -/
def locationText (raw : RawFinding) : String :=
  match raw.file with
  | some file => if file.isEmpty then "" else " in " ++ file
  | none => ""

/-- The finding as it is, with a note. -/
def fallback (raw : RawFinding) (note : String) : Except Crash TranslatedFinding :=
  match trimMessage raw.message with
  | .error crash => .error crash
  | .ok message =>
    .ok
      { id := raw.id
        panel := raw.panel
        plainLanguage := message
        context := "This finding was detected by automated analysis" ++ locationText raw ++ "."
        importance := raw.severity.importance
        reflection := standardReflection
        note := some note }

theorem length_placesFrom (ids : List String) (candidates : List Json)
    (named : List (String × Nat)) (used : List Nat) (findings : List (String × Nat)) :
    (placesFrom ids candidates named used findings).length = findings.length := by
  induction findings generalizing used with
  | nil => rfl
  | cons f rest ih =>
    rw [placesFrom, List.length_cons]
    split
    · rw [List.length_cons, ih]
    · split
      · rw [List.length_cons, ih]
      · rw [List.length_cons, ih]

theorem length_candidatesFor (ids : List String) (candidates : List Json) :
    (candidatesFor ids candidates).length = ids.length := by
  simp [candidatesFor, placesFor, length_placesFrom]

end PlainScan

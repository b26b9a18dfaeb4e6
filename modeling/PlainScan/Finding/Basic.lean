import PlainScan.Json.Basic
import PlainScan.Panel
import PlainScan.Severity

namespace PlainScan

/-!
# Findings

* `RawFinding` — what an analyzer found.  The message, the line and the column of a tool's
  report are kept as the tool wrote them.
* `TranslatedFinding` — the same finding in plain language, or as it was with a note.
* `RawFinding.toJson`, `TranslatedFinding.toJson` — their written forms.
-/

/-- What an analyzer found.  A line or column that is null is absent. -/
structure RawFinding where
  id : String
  panel : Panel
  tool : String
  severity : Severity
  message : Json
  file : Option String := none
  line : Json := .null
  column : Json := .null
  metadata : Fields := []
  deriving Inhabited

/-- A finding as the report shows it. -/
structure TranslatedFinding where
  id : String
  panel : Panel
  plainLanguage : Json
  context : String
  importance : Importance
  reflection : String
  commonApproaches : Option (List String) := none
  note : Option String := none
  deriving Inhabited

/-! ### Written forms -/

/-- A field that is left out where its value is null. -/
def Fields.present (key : String) : Json → Fields
  | .null => []
  | value => [(key, value)]

/-- The written form of a raw finding; what is absent is left out. -/
def RawFinding.toJson (f : RawFinding) : Json :=
  .obj <|
    [("id", .str f.id), ("panel", .str f.panel.name), ("tool", .str f.tool),
      ("severity", .str f.severity.name), ("message", f.message)]
    ++ Fields.present "file" (.ofString? f.file)
    ++ Fields.present "line" f.line
    ++ Fields.present "column" f.column
    ++ if f.metadata.isEmpty then [] else [("metadata", .obj f.metadata)]

/-- Whether the finding carries its technical message instead of a plain text. -/
def TranslatedFinding.isFallback (f : TranslatedFinding) : Bool := f.note.isSome

/-- The written form of a translated finding; what is absent is left out. -/
def TranslatedFinding.toJson (f : TranslatedFinding) : Json :=
  .obj <|
    [("id", .str f.id), ("panel", .str f.panel.name), ("plainLanguage", f.plainLanguage),
      ("context", .str f.context), ("importance", .str f.importance.name),
      ("reflection", .str f.reflection)]
    ++ Fields.present "commonApproaches" (.ofOption (f.commonApproaches.map .ofStrings))
    ++ Fields.present "staticAnalysisNote" (.ofString? f.note)

end PlainScan

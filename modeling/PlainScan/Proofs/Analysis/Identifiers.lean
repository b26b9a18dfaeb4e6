import PlainScan.Proofs.Analysis.Hits
import PlainScan.Proofs.Analysis.Transcription

namespace PlainScan

/-!
# What identifiers tell

An identifier is made from the panel, the tool and the fields by which findings of that tool differ.
The panel comes first and decides which fields these are.  Any text may be a path or the origin of a
vulnerability; if nothing else has a colon in it, what is hashed tells all of them.

* `RawFinding.discriminant`, `RawFinding.identityParts` — what the identifier of a finding is made
  from.
* `Analyzer.isIdentified_of_mem_issues`, `Analyzer.isClear_of_mem_issues` — the four analyzers.
* `identityText_eq_iff` — what is hashed tells panel, tool and fields.
* `Analyzer.identities_apart` — two findings of any runs.
-/

/-! ### Findings -/

namespace RawFinding

/-- A field of the metadata as a text. -/
def detail (f : RawFinding) (name : String) : String :=
  identityPart ((Json.obj f.metadata).fieldD name)

/-- The fields by which a finding differs from others of its tool. -/
def discriminant (f : RawFinding) : Discriminant :=
  match f.panel with
  | .codeQuality => .place (f.detail "ruleId") (f.file.getD "") f.line
  | .dependencies =>
    .package (f.detail "packageName") (f.detail "npmSeverity") (f.detail "vulnerability")
  | .secrets | .accessibility => .place (f.detail "patternId") (f.file.getD "") f.line

/-- What the identifier of a finding is made from. -/
def identityParts (f : RawFinding) : List Json :=
  .str f.panel.name :: .str f.tool :: f.discriminant.parts

/-- What is asked of reports.  A rule of the linter has no colon in it and its lines are numbers or
    absent; neither the name of a package nor the word for its severity has a colon in it.  Nothing
    is asked of the other analyzers. -/
def IsClear (f : RawFinding) : Prop :=
  f.panel = .codeQuality ∨ f.panel = .dependencies → f.discriminant.IsClear

/-- A finding of an analyzer, with the identifier that its fields give. -/
structure IsIdentified (f : RawFinding) (a : AnalyzerInfo) : Prop where
  panel : f.panel = a.panel
  tool : f.tool = a.name
  id : f.id = findingId f.identityParts

end RawFinding

/-- The shape goes by the panel. -/
theorem isPackage_discriminant (f : RawFinding) :
    f.discriminant.isPackage = decide (f.panel = .dependencies) := by
  rw [RawFinding.discriminant]
  cases f.panel <;> rfl

/-- An identifier goes by the texts of the fields. -/
theorem findingId_congr {parts parts' : List Json}
    (h : parts.map identityPart = parts'.map identityPart) :
    findingId parts = findingId parts' := by
  rw [findingId, identityText, h, findingId, identityText]

section

variable {config : Config} {area : WorkingArea} {tools : Tools} {timeout : Number} {a b : Analyzer}
  {f g : RawFinding}

/-- The issues of all analyzers have the identifiers that their fields give. -/
theorem Analyzer.isIdentified_of_mem_issues (h : f ∈ a.issues config area tools timeout) :
    f.IsIdentified a.info := by
  cases a with
  | lint =>
    obtain ⟨path, message, rfl⟩ := Lint.exists_of_mem_issues h
    generalize area.relativeText path = file
    refine ⟨rfl, rfl, ?_⟩
    -- a rule that is no text counts by its text
    have hparts : (Lint.finding file message).identityParts
        = [.str Lint.info.panel.name, .str Lint.info.name,
            .str (identityPart (Lint.ruleOf message)), .str file, message.fieldD "line"] := rfl
    rw [hparts, Lint.finding]
    refine findingId_congr ?_
    simp only [Lint.identity, List.map_cons, identityPart_str]
  | audit =>
    obtain ⟨package, word, via, entry, rfl⟩ := Audit.exists_of_mem_issues h
    exact ⟨rfl, rfl, rfl⟩
  | secrets =>
    obtain ⟨-, -, -, -, line, p, -, column, rfl⟩ := Secrets.exists_of_mem_issues h
    exact ⟨rfl, rfl, rfl⟩
  | accessibility =>
    obtain ⟨-, -, -, -, ⟨check, -, m, rfl⟩ | ⟨skip, rfl⟩⟩ := Accessibility.exists_of_mem_issues h
    · exact ⟨rfl, rfl, rfl⟩
    · exact ⟨rfl, rfl, rfl⟩

/-- The analyzers that search files give numbers for lines, and no name of a pattern has a colon
    in it. -/
theorem Analyzer.isClear_of_mem_issues (h : f ∈ a.issues config area tools timeout)
    (hclear : f.IsClear) : f.discriminant.IsClear := by
  cases a with
  | lint =>
    exact hclear (.inl (isIdentified_of_mem_issues h).panel)
  | audit =>
    exact hclear (.inr (isIdentified_of_mem_issues h).panel)
  | secrets =>
    obtain ⟨-, -, -, -, line, p, hp, column, rfl⟩ := Secrets.exists_of_mem_issues h
    exact ⟨Secrets.colon_not_mem_id hp, some line, rfl⟩
  | accessibility =>
    obtain ⟨-, -, -, -, ⟨check, hcheck, m, rfl⟩ | ⟨skip, rfl⟩⟩ :=
      Accessibility.exists_of_mem_issues h
    · have hids : ∀ check ∈ Accessibility.checks, ':' ∉ check.id.toList := by decide
      exact ⟨hids check hcheck, some m.start.line, rfl⟩
    · have hid : ':' ∉ Accessibility.headingCheck.toList := by decide
      exact ⟨hid, some skip.line, rfl⟩

/-! ### Panels and tools -/

theorem colon_not_mem_panel (panel : Panel) : ':' ∉ panel.name.toList := by
  cases panel <;> decide

theorem panel_name_injective : Function.Injective Panel.name := by
  intro panel other h
  cases panel <;> cases other <;> first | rfl | exact absurd h (by decide)

theorem Analyzer.colon_not_mem_name (a : Analyzer) : ':' ∉ a.info.name.toList := by
  cases a <;> decide

theorem Analyzer.eq_of_panel (h : a.info.panel = b.info.panel) : a = b := by
  cases a <;> cases b <;> first | rfl | cases h

/-- The panel is the first thing that the joined text tells. -/
theorem panel_eq_of_identityText (h : identityText f.identityParts = identityText g.identityParts) :
    f.panel = g.panel := by
  have htexts := congrArg String.toList h
  simp only [toList_identityText, RawFinding.identityParts, List.map_cons] at htexts
  rw [Text.joined_cons _ (List.cons_ne_nil _ _), Text.joined_cons _ (List.cons_ne_nil _ _)]
    at htexts
  have hname := (Text.append_cons_inj_left (colon_not_mem_panel _) (colon_not_mem_panel _)
    htexts).1
  exact panel_name_injective (String.toList_inj.mp hname)

/-- **The joined text tells everything.** -/
theorem identityText_eq_iff (hf : f.IsIdentified a.info) (hg : g.IsIdentified b.info)
    (hfclear : f.discriminant.IsClear) (hgclear : g.discriminant.IsClear) :
    identityText f.identityParts = identityText g.identityParts ↔
      f.panel = g.panel ∧ f.tool = g.tool ∧ f.discriminant = g.discriminant := by
  constructor
  · intro h
    -- one panel is filled by one tool, so that the fields have the same shape
    have hpanel := panel_eq_of_identityText h
    obtain rfl : a = b := Analyzer.eq_of_panel (by rw [← hf.panel, hpanel, hg.panel])
    have htool : f.tool = g.tool := hf.tool.trans hg.tool.symm
    have hname : ':' ∉ f.tool.toList := by
      rw [hf.tool]
      exact a.colon_not_mem_name
    refine ⟨hpanel, htool, Discriminant.parts_inj (colon_not_mem_panel f.panel) hname hfclear
      hgclear ?_ ?_⟩
    · rw [isPackage_discriminant, isPackage_discriminant, hpanel]
    · rw [RawFinding.identityParts, RawFinding.identityParts, ← hpanel, ← htool] at h
      exact h
  · rintro ⟨hpanel, htool, hdiscriminant⟩
    rw [RawFinding.identityParts, RawFinding.identityParts, hpanel, htool, hdiscriminant]

end

/-! ### Two runs -/

/-- **Identifiers are unambiguous.** Take two findings of any analyzers in any runs.  What is hashed
    for them is the same exactly if panel, tool and all fields by which findings differ are the
    same, and if the hash keeps these two texts apart, so are the identifiers. -/
theorem Analyzer.identities_apart {config config' : Config} {area area' : WorkingArea}
    {tools tools' : Tools} {timeout timeout' : Number} {a b : Analyzer} {f g : RawFinding}
    (hf : f ∈ (a.run config area tools timeout).findings)
    (hg : g ∈ (b.run config' area' tools' timeout').findings)
    (hfclear : f.IsClear) (hgclear : g.IsClear) :
    f.id = findingId f.identityParts ∧ g.id = findingId g.identityParts ∧
      (identityText f.identityParts = identityText g.identityParts ↔
        f.panel = g.panel ∧ f.tool = g.tool ∧ f.discriminant = g.discriminant) ∧
      ((findingId f.identityParts = findingId g.identityParts →
          identityText f.identityParts = identityText g.identityParts) →
        (f.id = g.id ↔
          f.panel = g.panel ∧ f.tool = g.tool ∧ f.discriminant = g.discriminant)) := by
  rw [(a.run_keeps config area tools timeout).findings_eq] at hf
  rw [(b.run_keeps config' area' tools' timeout').findings_eq] at hg
  have hf' := mem_of_mem_firstById (List.mem_of_mem_take hf)
  have hg' := mem_of_mem_firstById (List.mem_of_mem_take hg)
  have hfid := isIdentified_of_mem_issues hf'
  have hgid := isIdentified_of_mem_issues hg'
  have htexts := identityText_eq_iff hfid hgid (isClear_of_mem_issues hf' hfclear)
    (isClear_of_mem_issues hg' hgclear)
  refine ⟨hfid.id, hgid.id, htexts, fun happart => ?_⟩
  rw [← htexts, hfid.id, hgid.id]
  refine ⟨happart, fun hsame => ?_⟩
  rw [findingId, hsame, findingId]

namespace Sample

/-- A message of one rule, with a line or without one. -/
def bare (line : Option Int) : Lint.Message := ⟨some "r", "m", line, none, .null⟩

/-- The report about a file that has a colon in its name; the message has no line. -/
def colonReport : ToolOutput where
  stdout :=
    "[\x7b\"filePath\":\"a:1\",\"messages\":[\x7b\"ruleId\":\"r\",\"message\":\"m\"\x7d]\x7d]"
  stderr := ""
  exitCode := 1

/-- The report about a file with what comes before the colon, and a line with what comes after
    it. -/
def plainReport : ToolOutput where
  stdout := "[\x7b\"filePath\":\"a\",\"messages\":[\x7b\"ruleId\":\"r\",\"message\":\"m\","
    ++ "\"line\":1\x7d]\x7d]"
  stderr := ""
  exitCode := 1

theorem isReport_colonReport : Lint.IsReport [⟨"a:1", [bare none]⟩] colonReport.stdout := by
  refine ⟨[.obj [("filePath", .str "a:1"), ("messages", .arr [.obj [("ruleId", .str "r"),
    ("message", .str "m")]])]], by decide +kernel, .cons ?_ .nil⟩
  exact ⟨rfl, _, rfl, .cons ⟨rfl, rfl, rfl, rfl, rfl, rfl⟩ .nil⟩

theorem isReport_plainReport : Lint.IsReport [⟨"a", [bare (some 1)]⟩] plainReport.stdout := by
  refine ⟨[.obj [("filePath", .str "a"), ("messages", .arr [.obj [("ruleId", .str "r"),
    ("message", .str "m"), ("line", .int 1)]])]], by decide +kernel, .cons ?_ .nil⟩
  exact ⟨rfl, _, rfl, .cons ⟨rfl, rfl, rfl, rfl, rfl, rfl⟩ .nil⟩

theorem mem_findings_of_isReport {file : String} {message : Lint.Message} {output : ToolOutput}
    (h : Lint.IsReport [⟨file, [message]⟩] output.stdout)
    (hwithin : Json.WithinLimits output.stdout.toList)
    (hhash : Lint.isHashable (packageArea.relativeText file, message) = true) :
    message.finding (packageArea.relativeText file)
      ∈ (Lint.outcome {} packageArea idle (.int 60) output).findings := by
  have hmessages : Lint.messagesIn packageArea [⟨file, [message]⟩]
      = [(packageArea.relativeText file, message)] := by
    simp only [Lint.messagesIn, List.flatMap_singleton, List.map_cons, List.map_nil]
  rw [Lint.outcome_of_isReport _ _ _ _ h hwithin (by rw [hmessages]; simpa using hhash), hmessages]
  generalize packageArea.relativeText file = path
  exact List.mem_singleton.mpr rfl

/-- A colon in a path is not taken for the one before a line. -/
theorem identities_apart_colon :
    (bare none).finding (packageArea.relativeText "a:1")
        ∈ (Lint.outcome {} packageArea idle (.int 60) colonReport).findings ∧
      (bare (some 1)).finding (packageArea.relativeText "a")
        ∈ (Lint.outcome {} packageArea idle (.int 60) plainReport).findings ∧
      identityText ((bare none).finding (packageArea.relativeText "a:1")).identityParts
        ≠ identityText ((bare (some 1)).finding (packageArea.relativeText "a")).identityParts := by
  have hcolon := mem_findings_of_isReport isReport_colonReport
    (Json.withinLimits_of_length (by decide)) (by decide +kernel)
  have hplain := mem_findings_of_isReport isReport_plainReport
    (Json.withinLimits_of_length (by decide)) (by decide +kernel)
  have hrule : ':' ∉ "r".toList := by decide
  have hclear (line : Option Int) (file : String) : ((bare line).finding file).IsClear :=
    fun _ => ⟨hrule, line, rfl⟩
  have happart := (Analyzer.identities_apart hcolon hplain (hclear none _)
    (hclear (some 1) _)).2.2.1
  refine ⟨hcolon, hplain, fun hsame => ?_⟩
  cases (Discriminant.place.inj (happart.mp hsame).2.2).2.2

end Sample

end PlainScan

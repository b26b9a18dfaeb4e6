import Mathlib.Data.List.Forall2
import PlainScan.Proofs.Analysis.FailedTools
import PlainScan.Proofs.Finding.Encodable
import PlainScan.Proofs.Json.Equality
import PlainScan.Proofs.Json.Limits

namespace PlainScan

/-!
# Reports that are well formed

The linter and the audit pass on what the report of their tool says: every message about a file, and
every vulnerable package, in the order of the report.  All are counted, and the first ones are
shown.  What was shown before is recognised by its identifier, though, not by its fields, so a
finding is lost where a different one has the same identifier.  All of them are lost where the
reader of JSON texts meets a limit, or where one of them cannot be hashed.

* `Lint.Message`, `Lint.Entry`, `Lint.IsReport` — a report of the linter and how it is written.
* `Audit.Package`, `Audit.IsReport` — a report of the audit.
* `Lint.Message.finding`, `Audit.Package.finding` — what becomes of a message and of a package.
* `Analysis.Transcribes` — the outcome for a report; `reports_transcribed_iff` — both reports.
-/

/-- A text that says something. -/
def given? : Option String → Option String
  | some text => if text.isEmpty then none else some text
  | none => none

/-- A text that says nothing is replaced. -/
theorem ofString?_orElse (text : Option String) (other : String) :
    (Json.ofString? text).orElse (.str other) = .str ((given? text).getD other) := by
  cases text with
  | none => rfl
  | some s =>
    show Json.orElse (.str s) (.str other) = _
    by_cases hs : s.isEmpty = true
    · simp [Json.orElse, Json.holds, given?, hs]
    · simp [Json.orElse, Json.holds, given?, hs]

/-- Of two texts the first one is taken that says something. -/
theorem ofString?_orElse_orElse (text second : Option String) (other : String) :
    ((Json.ofString? text).orElse (.ofString? second)).orElse (.str other)
      = .str (((given? text).or (given? second)).getD other) := by
  cases text with
  | none => exact ofString?_orElse second other
  | some s =>
    show ((Json.str s).orElse (.ofString? second)).orElse (.str other) = _
    by_cases hs : s.isEmpty = true
    · have hskipped : (Json.str s).orElse (.ofString? second) = .ofString? second :=
        if_neg (by simp [Json.holds, hs])
      rw [hskipped, ofString?_orElse]
      simp [given?, hs]
    · have htaken : ∀ more, (Json.str s).orElse more = .str s :=
        fun more => if_pos (by simp [Json.holds, hs])
      rw [htaken, htaken]
      simp [given?, hs]

/-! ### Outcomes -/

/-- The outcome for a report with some issues.  It is complete and counts all of them; the findings
    are the first with distinct identifiers.  They are the first that are to be shown if no two of
    these have the same identifier, and otherwise they are not. -/
structure Analysis.Transcribes (r : Analysis) (cap : Nat) (issues shown : List RawFinding)
    (files : Option Nat) : Prop where
  completed : r.status = .completed ∧ r.reason = none ∧ r.error = none
  totalIssues : r.totalIssues = issues.length
  filesAnalyzed : r.filesAnalyzed = files
  findings : r.findings = (firstById issues).take cap
  findings_iff : r.findings = shown.take cap ↔ ((shown.take cap).map RawFinding.id).Nodup

/-- What a search collects is transcribed. -/
theorem AnalyzerInfo.completed_transcribes (a : AnalyzerInfo) (cap : Nat)
    {issues shown : List RawFinding} (hshown : firstById shown = firstById issues)
    (files : Option Nat) :
    (a.completed ((Collector.mk cap [] 0).addAll issues) files).Transcribes cap issues shown
      files := by
  have hkeeps := a.completed_keeps cap issues files
  refine ⟨⟨rfl, rfl, rfl⟩, hkeeps.totalIssues_eq, rfl, hkeeps.findings_eq, ?_⟩
  rw [hkeeps.findings_eq, ← hshown]
  exact take_firstById_eq_iff shown cap

/-! ### The linter -/

namespace Lint

/-- A message about a file: the rule, if one is named, the text, the line, if there is one, and the
    level and the column as they are written. -/
structure Message where
  rule : Option String
  text : String
  line : Option Int
  level : Option Json
  column : Json

/-- What the report says of one file. -/
structure Entry where
  path : String
  messages : List Message

/-- How a message is written. -/
structure Message.WrittenAs (m : Message) (value : Json) : Prop where
  isObject : value.isObject = true
  rule : value.fieldD "ruleId" = .ofString? m.rule
  text : value.field? "message" = some (.str m.text)
  line : value.fieldD "line" = .ofOption (m.line.map .int)
  level : value.field? "severity" = m.level
  column : value.fieldD "column" = m.column

/-- How an entry is written. -/
structure Entry.WrittenAs (e : Entry) (value : Json) : Prop where
  path : value.field? "filePath" = some (.str e.path)
  messages : ∃ items, value.field? "messages" = some (.arr items) ∧
    List.Forall₂ Message.WrittenAs e.messages items

/-- A text is the report with some entries. -/
def IsReport (entries : List Entry) (stdout : String) : Prop :=
  ∃ values, Json.readText? stdout = some (.arr values) ∧
    List.Forall₂ Entry.WrittenAs entries values

/-- The rule that is reported. -/
def Message.reportedRule (m : Message) : String := (given? m.rule).getD "unknown"

/-- The level is that of an error. -/
def Message.isError (m : Message) : Bool :=
  match m.level with
  | some (.int level) => level == 2
  | some (.num level) => decide (level = Binary64.ofInt 2)
  | _ => false

/-- The fields by which a message about a file is known. -/
def Message.parts (m : Message) (file : String) : List Json :=
  [.str Panel.codeQuality.name, .str "eslint", .str m.reportedRule, .str file,
    .ofOption (m.line.map .int)]

/-- What becomes of a message about a file. -/
def Message.finding (m : Message) (file : String) : RawFinding where
  id := findingId (m.parts file)
  panel := .codeQuality
  tool := "eslint"
  severity := if m.isError then .high else .low
  message := .str m.text
  file := some file
  line := .ofOption (m.line.map .int)
  column := m.column
  metadata := [("ruleId", .str m.reportedRule)]

/-- The messages of a report in order, each with its file relative to the area. -/
def messagesIn (area : WorkingArea) (entries : List Entry) : List (String × Message) :=
  entries.flatMap fun e => e.messages.map fun m => (area.relativeText e.path, m)

/-- What becomes of a message with its file. -/
def transcript (p : String × Message) : RawFinding := p.2.finding p.1

/-- By the rule, the file and the line a message is recognised. -/
def place (p : String × Message) : String × String × Option Int :=
  (p.2.reportedRule, p.1, p.2.line)

/-- A message with its file can be hashed: both the rule and the file can be encoded. -/
def isHashable (p : String × Message) : Bool :=
  Text.isEncodable p.2.reportedRule && Text.isEncodable p.1

theorem ruleOf_of_writtenAs {m : Message} {value : Json} (h : m.WrittenAs value) :
    ruleOf value = .str m.reportedRule := by
  rw [ruleOf, h.rule, ofString?_orElse]
  rfl

theorem severityOf_of_writtenAs {m : Message} {value : Json} (h : m.WrittenAs value) :
    severityOf ((value.field? "severity").getD (.int 1)) = if m.isError then .high else .low := by
  rw [h.level, Message.isError]
  cases m.level with
  | none => rfl
  | some level =>
    cases level with
    | int n =>
      by_cases hn : n = 2
      · subst hn
        rfl
      · simp [severityOf, hn]
    | num x => simp [severityOf]
    | _ => rfl

/-- The fields by which a finding is known are those of the message. -/
theorem Message.WrittenAs.identity_eq {m : Message} {value : Json} (h : m.WrittenAs value)
    (file : String) : Lint.identity file value = m.parts file := by
  rw [Lint.identity, ruleOf_of_writtenAs h, h.line]
  rfl

/-- **One message.** -/
theorem Message.WrittenAs.finding_eq {m : Message} {value : Json} (h : m.WrittenAs value)
    (file : String) : Lint.finding file value = m.finding file := by
  rw [Lint.finding, h.identity_eq, ruleOf_of_writtenAs h, severityOf_of_writtenAs h, h.text, h.line,
    h.column]
  rfl

/-- Besides the rule and the file nothing stands in the way of a hash. -/
theorem isIdentifiable_parts (p : String × Message) :
    isIdentifiable (p.2.parts p.1) = isHashable p := by
  have hwords : Text.isEncodable Panel.codeQuality.name = true
      ∧ Text.isEncodable "eslint" = true := by decide
  simp only [isIdentifiable_eq_all, Message.parts, List.all_cons, List.all_nil, identityPart_str,
    hwords.1, hwords.2, Text.isEncodable_line, Bool.and_true, Bool.true_and, isHashable]

/-- **The messages about a file.** They are gone through one by one, unless one of them cannot be
    hashed. -/
theorem messageFindings_of_writtenAs {messages : List Message} {items : List Json}
    (h : List.Forall₂ Message.WrittenAs messages items) (file : String) :
    items.all Json.isObject = true ∧ messageFindings file items =
      if (messages.map fun m => (file, m)).all isHashable then
        .ok ((messages.map fun m => (file, m)).map transcript)
      else .error .unencodable := by
  have hall : (items.all Json.isObject = true
      ∧ items.map (Lint.finding file) = (messages.map fun m => (file, m)).map transcript)
      ∧ (items.all fun message => isIdentifiable (identity file message))
        = (messages.map fun m => (file, m)).all isHashable := by
    induction h with
    | nil => exact ⟨⟨rfl, rfl⟩, rfl⟩
    | @cons m value _ _ hm hrest ih =>
      refine ⟨⟨?_, ?_⟩, ?_⟩
      · rw [List.all_cons, hm.isObject, ih.1.1]
        rfl
      · rw [List.map_cons, hm.finding_eq, ih.1.2]
        rfl
      · rw [List.all_cons, hm.identity_eq, isIdentifiable_parts (file, m), ih.2]
        rfl
  rw [messageFindings, hall.2, hall.1.2]
  exact ⟨hall.1.1, rfl⟩

/-- **One file.** -/
theorem Entry.WrittenAs.fileFindings_eq {e : Entry} {value : Json} (h : e.WrittenAs value)
    (area : WorkingArea) :
    fileFindings area value =
      if (e.messages.map fun m => (area.relativeText e.path, m)).all isHashable then
        .ok ((e.messages.map fun m => (area.relativeText e.path, m)).map transcript)
      else .error .unencodable := by
  obtain ⟨items, hitems, hmessages⟩ := h.messages
  obtain ⟨hobjects, hfindings⟩ :=
    messageFindings_of_writtenAs hmessages (area.relativeText e.path)
  rw [fileFindings, if_neg (by simp [Json.isObject_of_field? h.path]), h.path, Option.getD_some,
    messagesOf, hitems]
  simp only [hobjects, if_true, hfindings]

/-- **The report.** Its messages are gone through in order, unless one of them cannot be hashed. -/
theorem findings_of_writtenAs (area : WorkingArea) {entries : List Entry} {values : List Json}
    (h : List.Forall₂ Entry.WrittenAs entries values) :
    findings area values =
      if (messagesIn area entries).all isHashable then
        .ok ((messagesIn area entries).map transcript)
      else .error .unencodable := by
  induction h with
  | nil => rfl
  | @cons e value entries values hentry hrest ih =>
    have hcons : messagesIn area (e :: entries)
        = (e.messages.map fun m => (area.relativeText e.path, m)) ++ messagesIn area entries := rfl
    rw [findings, hentry.fileFindings_eq area, ih, hcons, List.map_append, List.all_append]
    -- one that cannot be hashed is among the messages of the file or behind them
    cases (e.messages.map fun m => (area.relativeText e.path, m)).all isHashable <;>
      cases (messagesIn area entries).all isHashable <;> rfl

/-- Messages at the same place have the same identifier. -/
theorem id_transcript_of_place_eq {p q : String × Message} (h : place p = place q) :
    (transcript p).id = (transcript q).id := by
  obtain ⟨hrule, hrest⟩ := Prod.mk.inj h
  obtain ⟨hfile, hline⟩ := Prod.mk.inj hrest
  show findingId (p.2.parts p.1) = findingId (q.2.parts q.1)
  rw [Message.parts, Message.parts, hrule, hfile, hline]

/-- Messages at different places have different identity texts, if no rule has a colon in it. -/
theorem place_eq_of_identityText_eq {p q : String × Message}
    (hp : ':' ∉ p.2.reportedRule.toList) (hq : ':' ∉ q.2.reportedRule.toList)
    (h : identityText (p.2.parts p.1) = identityText (q.2.parts q.1)) : place p = place q := by
  have hsame : Discriminant.place p.2.reportedRule p.1 (.ofOption (p.2.line.map .int))
      = .place q.2.reportedRule q.1 (.ofOption (q.2.line.map .int)) :=
    Discriminant.parts_inj (by decide) (by decide) ⟨hp, p.2.line, rfl⟩ ⟨hq, q.2.line, rfl⟩ rfl h
  obtain ⟨hrule, hfile, hline⟩ := Discriminant.place.inj hsame
  rw [place, place, hrule, hfile, line_inj (congrArg identityPart hline)]

/-- **No message is lost** if no rule has a colon in it and the hashes tell the identity texts
    apart. -/
theorem nodup_ids_shown {messages : List (String × Message)}
    (hrules : ∀ p ∈ messages, ':' ∉ p.2.reportedRule.toList)
    (happart : ∀ p ∈ messages, ∀ q ∈ messages, (transcript p).id = (transcript q).id →
      identityText (p.2.parts p.1) = identityText (q.2.parts q.1)) (cap : Nat) :
    ((((firstBy place messages).map transcript).take cap).map RawFinding.id).Nodup := by
  have hplaces := nodup_keys_firstBy place messages
  have hids : (((firstBy place messages).map transcript).map RawFinding.id).Nodup := by
    rw [List.map_map]
    refine hplaces.of_map.map_on fun p hp q hq hid => ?_
    have hp' := mem_of_mem_firstBy hp
    have hq' := mem_of_mem_firstBy hq
    exact List.inj_on_of_nodup_map hplaces hp hq (place_eq_of_identityText_eq (hrules p hp')
      (hrules q hq') (happart p hp' q hq' hid))
  exact hids.sublist ((List.take_sublist _ _).map RawFinding.id)

end Lint

/-! ### The audit -/

namespace Audit

/-- Where a vulnerability comes from: another package, or an advisory with a title and a name. -/
inductive Origin where
  | package (name : String)
  | advisory (title name : Option String)

/-- What the report says of the origin of a vulnerability. -/
inductive Via where
  | absent
  | text (written : String)
  | origins (listed : List Origin)

/-- A vulnerable package; the range and the fix are as they are written. -/
structure Package where
  name : String
  severity : Option String
  via : Via
  range : Json
  fix : Json

/-- How an origin is written. -/
inductive Origin.WrittenAs : Origin → Json → Prop
  | package (name : String) : WrittenAs (.package name) (.str name)
  | advisory {title name : Option String} {fields : Fields}
      (htitle : (Json.obj fields).fieldD "title" = .ofString? title)
      (hname : (Json.obj fields).fieldD "name" = .ofString? name) :
      WrittenAs (.advisory title name) (.obj fields)

/-- How the origin of a vulnerability is written. -/
inductive Via.WrittenAs : Via → Json → Prop
  | absent : WrittenAs .absent .null
  | text (written : String) : WrittenAs (.text written) (.str written)
  | origins {listed : List Origin} {items : List Json}
      (horigins : List.Forall₂ Origin.WrittenAs listed items) :
      WrittenAs (.origins listed) (.arr items)

/-- How a vulnerable package is written. -/
structure Package.WrittenAs (p : Package) (entry : String × Json) : Prop where
  name : entry.1 = p.name
  severity : entry.2.fieldD "severity" = .ofString? p.severity
  via : p.via.WrittenAs (entry.2.fieldD "via")
  range : entry.2.fieldD "range" = p.range
  fix : entry.2.fieldD "fixAvailable" = p.fix

/-- A text is the report with some vulnerable packages.  It tells of no failure; the entries that
    are no objects are no packages. -/
def IsReport (packages : List Package) (stdout : String) : Prop :=
  ∃ fields entries, Json.readText? stdout = some (.obj fields) ∧
    ((Json.obj fields).fieldD "error").isObject = false ∧
    ((Json.obj fields).fieldD "vulnerabilities" = .obj entries ∨
      (Json.obj fields).fieldD "vulnerabilities" = .null ∧ entries = []) ∧
    List.Forall₂ Package.WrittenAs packages (entries.filter fun entry => entry.2.isObject)

/-- What is said of an origin. -/
def Origin.description : Origin → String
  | package name => name
  | advisory title name => ((given? title).or (given? name)).getD "unknown"

/-- What is said of where a vulnerability comes from. -/
def Via.description : Via → String
  | absent => "unknown"
  | text written => (given? (some written)).getD "unknown"
  | origins listed =>
    (given? (some (", ".intercalate (listed.map Origin.description)))).getD "unknown"

/-- The word for the severity that is reported. -/
def Package.word (p : Package) : String := (given? p.severity).getD "low"

/-- The severity that the word stands for in any case; all words but three stand for a low one. -/
def Package.grade (p : Package) : Severity :=
  ([("critical", Severity.critical), ("high", .high), ("moderate", .medium)].lookup
    (Text.lowerString p.word)).getD .low

/-- The fields by which a vulnerable package is known. -/
def Package.parts (p : Package) : List Json :=
  [.str Panel.dependencies.name, .str "npm_audit", .str p.name, .str p.word,
    .str p.via.description]

/-- A package can be hashed: its name, the word for its severity and what is said of the origin can
    be encoded. -/
def isHashable (p : Package) : Bool :=
  Text.isEncodable p.name && (Text.isEncodable p.word && Text.isEncodable p.via.description)

/-- What becomes of a vulnerable package. -/
def Package.finding (p : Package) : RawFinding where
  id := findingId p.parts
  panel := .dependencies
  tool := "npm_audit"
  severity := p.grade
  message := .str (p.name ++ ": " ++ p.via.description)
  file := some "package.json"
  line := .int 1
  column := .int 0
  metadata := [("packageName", .str p.name), ("vulnerability", .str p.via.description),
    ("npmSeverity", .str p.word), ("range", p.range.orElse (.str "*")),
    ("fixAvailable", p.fix.orElse (.bool false))]

/-- The origins of a list are gone through one by one. -/
theorem viaTexts_of_writtenAs {origins : List Origin} {items : List Json}
    (h : List.Forall₂ Origin.WrittenAs origins items) :
    viaTexts items = .ok (origins.map Origin.description) := by
  induction h with
  | nil => rfl
  | cons horigin hrest ih =>
    rw [viaTexts, ih, List.map_cons]
    cases horigin with
    | package name => rfl
    | @advisory title name fields htitle hname =>
      simp only [htitle, hname, ofString?_orElse_orElse]
      rfl

/-- **The origin.** -/
theorem Via.WrittenAs.viaText_eq {via : Via} {value : Json} (h : via.WrittenAs value) :
    viaText value = .ok via.description := by
  cases h with
  | absent => rfl
  | text written =>
    show Except.ok (Json.orElse (.str written) (.str "unknown")).display = _
    rw [show Json.str written = .ofString? (some written) from rfl, ofString?_orElse]
    rfl
  | @origins listed items horigins =>
    rw [viaText, viaTexts_of_writtenAs horigins, Via.description, given?]
    dsimp only
    split <;> rfl

/-- **The severity.** -/
theorem severityOf_word (p : Package) : severityOf p.word = p.grade := by
  rw [severityOf, Package.grade]
  generalize Text.lowerString p.word = word
  split
  · rfl
  · rfl
  · rfl
  · next hcritical hhigh hmoderate =>
    rw [List.lookup_cons, beq_false_of_ne hcritical, List.lookup_cons, beq_false_of_ne hhigh,
      List.lookup_cons, beq_false_of_ne hmoderate]
    rfl

/-- Nothing else stands in the way of a hash. -/
theorem isIdentifiable_parts (p : Package) : isIdentifiable p.parts = isHashable p := by
  have hwords : Text.isEncodable Panel.dependencies.name = true
      ∧ Text.isEncodable "npm_audit" = true := by decide
  simp only [isIdentifiable_eq_all, Package.parts, List.all_cons, List.all_nil, identityPart_str,
    hwords.1, hwords.2, Bool.and_true, Bool.true_and, isHashable]

/-- **One package.** -/
theorem Package.WrittenAs.packageFinding_eq {p : Package} {entry : String × Json}
    (h : p.WrittenAs entry) : packageFinding entry.1 entry.2 =
      if isHashable p then .ok p.finding else .error .unencodable := by
  have hidentity : identity p.name p.word p.via.description = p.parts := rfl
  rw [packageFinding, h.severity, ofString?_orElse]
  simp only [h.via.viaText_eq, Audit.finding, h.name, h.range, h.fix]
  rw [show (given? p.severity).getD "low" = p.word from rfl, severityOf_word, hidentity,
    isIdentifiable_parts]
  rfl

/-- **The report.** Its packages are gone through in order, unless one of them cannot be hashed. -/
theorem findings_of_writtenAs {packages : List Package} {entries : Fields}
    (h : List.Forall₂ Package.WrittenAs packages (entries.filter fun entry => entry.2.isObject)) :
    findings entries =
      if packages.all isHashable then .ok (packages.map Package.finding)
      else .error .unencodable := by
  induction entries generalizing packages with
  | nil =>
    cases h
    rfl
  | cons entry rest ih =>
    obtain ⟨name, value⟩ := entry
    rw [findings]
    cases hobject : value.isObject with
    | false =>
      rw [List.filter_cons_of_neg (by simp [hobject])] at h
      rw [ih h]
      cases packages.all isHashable <;> rfl
    | true =>
      rw [List.filter_cons_of_pos (by simp [hobject])] at h
      cases h with
      | @cons p _ others _ hpackage hrest =>
        have hone : packageFinding name value = _ := hpackage.packageFinding_eq
        rw [ih hrest, hone, List.all_cons]
        -- one that cannot be hashed is this package or one behind it
        cases isHashable p <;> cases others.all isHashable <;> rfl

/-- Packages with different names have different identity texts, if no name and no word for a
    severity has a colon in it. -/
theorem name_eq_of_identityText_eq {p q : Package}
    (hp : ':' ∉ p.name.toList ∧ ':' ∉ p.word.toList)
    (hq : ':' ∉ q.name.toList ∧ ':' ∉ q.word.toList)
    (h : identityText p.parts = identityText q.parts) : p.name = q.name := by
  have hsame : Discriminant.package p.name p.word p.via.description
      = .package q.name q.word q.via.description :=
    Discriminant.parts_inj (by decide) (by decide) hp hq rfl h
  exact (Discriminant.package.inj hsame).1

/-- **No package is lost** if no name and no word for a severity has a colon in it, the names
    differ, and the hashes tell the identity texts apart. -/
theorem nodup_ids_shown {packages : List Package} (hnames : (packages.map Package.name).Nodup)
    (hcolons : ∀ p ∈ packages, ':' ∉ p.name.toList ∧ ':' ∉ p.word.toList)
    (happart : ∀ p ∈ packages, ∀ q ∈ packages, p.finding.id = q.finding.id →
      identityText p.parts = identityText q.parts) (cap : Nat) :
    (((packages.map Package.finding).take cap).map RawFinding.id).Nodup := by
  have hids : ((packages.map Package.finding).map RawFinding.id).Nodup := by
    rw [List.map_map]
    refine hnames.of_map.map_on fun p hp q hq hid => ?_
    exact List.inj_on_of_nodup_map hnames hp hq (name_eq_of_identityText_eq (hcolons p hp)
      (hcolons q hq) (happart p hp q hq hid))
  exact hids.sublist ((List.take_sublist _ _).map RawFinding.id)

end Audit

/-! ### Both -/

section

variable (config : Config) (area : WorkingArea) (tools : Tools) (timeout : Number)
  {output : ToolOutput}

/-- What becomes of a report of the linter. -/
theorem Lint.outcome_of_isReport {entries : List Entry} (h : IsReport entries output.stdout)
    (hwithin : Json.WithinLimits output.stdout.toList)
    (hhash : (messagesIn area entries).all isHashable = true) :
    outcome config area tools timeout output = info.completed
      ((Collector.mk config.maxFindingsPerPanel [] 0).addAll
        ((messagesIn area entries).map transcript)) (some entries.length) := by
  obtain ⟨values, hread, hwritten⟩ := h
  have hattempt : Json.attemptText output.stdout = .ok (some (.arr values)) :=
    Json.attempt_eq_ok_iff.mpr ⟨hwithin, hread.symm⟩
  show info.ofResult (analyzeOutput config area output) = _
  rw [analyzeOutput_of_report config area hattempt, analyzeReport,
    findings_of_writtenAs area hwritten, if_pos hhash, hwritten.length_eq]
  rfl

/-- A report of the linter beyond a limit, or with a message that cannot be hashed, is a failure. -/
theorem Lint.exists_failed_of_isReport {entries : List Entry} (h : IsReport entries output.stdout)
    (hnot : ¬ (Json.WithinLimits output.stdout.toList
      ∧ (messagesIn area entries).all isHashable = true)) :
    ∃ error, outcome config area tools timeout output = info.failed .toolError error := by
  obtain ⟨values, hread, hwritten⟩ := h
  show ∃ error, info.ofResult (analyzeOutput config area output) = _
  by_cases hwithin : Json.WithinLimits output.stdout.toList
  · have hattempt : Json.attemptText output.stdout = .ok (some (.arr values)) :=
      Json.attempt_eq_ok_iff.mpr ⟨hwithin, hread.symm⟩
    rw [analyzeOutput_of_report config area hattempt, analyzeReport,
      findings_of_writtenAs area hwritten, if_neg fun hhash => hnot ⟨hwithin, hhash⟩]
    exact ⟨_, rfl⟩
  · refine exists_failed_of_no_report config area ?_
    rintro ⟨found, hfound⟩
    exact hwithin ⟨_, hfound⟩

/-- The packages of a report are those under one of its keys. -/
theorem Audit.packages_of_isReport {fields entries : Fields}
    (h : (Json.obj fields).fieldD "vulnerabilities" = .obj entries ∨
      (Json.obj fields).fieldD "vulnerabilities" = .null ∧ entries = []) :
    ((Json.obj fields).fieldD "vulnerabilities").orElse (.obj []) = .obj entries := by
  rcases h with hobject | ⟨hnull, rfl⟩
  · rw [hobject]
    cases entries <;> rfl
  · rw [hnull]
    rfl

/-- What becomes of a report of the audit. -/
theorem Audit.outcome_of_isReport (hfile : area.hasFile manifest = true) {packages : List Package}
    (h : IsReport packages output.stdout) (hwithin : Json.WithinLimits output.stdout.toList)
    (hhash : packages.all isHashable = true) :
    outcome config area tools timeout output = info.completed
      ((Collector.mk config.maxFindingsPerPanel [] 0).addAll (packages.map Package.finding)) := by
  obtain ⟨fields, entries, hread, herror, hentries, hwritten⟩ := h
  have hattempt : Json.attemptText output.stdout = .ok (some (.obj fields)) :=
    Json.attempt_eq_ok_iff.mpr ⟨hwithin, hread.symm⟩
  rw [outcome_of_hasFile config area tools timeout output hfile,
    analyzeOutput_of_report config hattempt, analyzeReport, herror, packages_of_isReport hentries]
  simp only [findings_of_writtenAs hwritten, hhash]
  rfl

/-- A report of the audit beyond a limit, or with a package that cannot be hashed, is a failure. -/
theorem Audit.exists_failed_of_isReport (hfile : area.hasFile manifest = true)
    {packages : List Package} (h : IsReport packages output.stdout)
    (hnot : ¬ (Json.WithinLimits output.stdout.toList ∧ packages.all isHashable = true)) :
    ∃ error, outcome config area tools timeout output = info.failed .toolError error := by
  obtain ⟨fields, entries, hread, herror, hentries, hwritten⟩ := h
  rw [outcome_of_hasFile config area tools timeout output hfile]
  by_cases hwithin : Json.WithinLimits output.stdout.toList
  · have hattempt : Json.attemptText output.stdout = .ok (some (.obj fields)) :=
      Json.attempt_eq_ok_iff.mpr ⟨hwithin, hread.symm⟩
    have hhash : packages.all isHashable = false :=
      Bool.eq_false_iff.mpr fun hhash => hnot ⟨hwithin, hhash⟩
    rw [analyzeOutput_of_report config hattempt, analyzeReport, herror,
      packages_of_isReport hentries]
    simp only [findings_of_writtenAs hwritten, hhash]
    exact ⟨_, rfl⟩
  · refine exists_failed_of_no_report config ?_
    rintro ⟨found, hfound⟩
    exact hwithin ⟨_, hfound⟩

end

/-- A failure transcribes nothing. -/
theorem AnalyzerInfo.not_transcribes_failed (a : AnalyzerInfo) (reason : StatusReason)
    (error : String) {cap : Nat} {issues shown : List RawFinding} {files : Option Nat} :
    ¬ (a.failed reason error).Transcribes cap issues shown files := by
  intro h
  cases h.completed.1

/-- **Reports that are well formed.** They are transcribed exactly if no limit of the reader is met
    in them and everything they report can be hashed. -/
theorem reports_transcribed_iff (config : Config) (area : WorkingArea) (tools : Tools)
    (timeout : Number) (output : ToolOutput) :
    (∀ entries, Lint.IsReport entries output.stdout →
        ((Lint.outcome config area tools timeout output).Transcribes config.maxFindingsPerPanel
            ((Lint.messagesIn area entries).map Lint.transcript)
            ((firstBy Lint.place (Lint.messagesIn area entries)).map Lint.transcript)
            (some entries.length) ↔
          Json.WithinLimits output.stdout.toList
            ∧ (Lint.messagesIn area entries).all Lint.isHashable = true)) ∧
      (area.hasFile Audit.manifest = true → ∀ packages, Audit.IsReport packages output.stdout →
        ((Audit.outcome config area tools timeout output).Transcribes config.maxFindingsPerPanel
            (packages.map Audit.Package.finding) (packages.map Audit.Package.finding) none ↔
          Json.WithinLimits output.stdout.toList ∧ packages.all Audit.isHashable = true)) := by
  constructor
  · intro entries hreport
    constructor
    -- otherwise the run has failed, and a failure transcribes nothing
    · intro htranscribes
      by_contra hnot
      obtain ⟨error, hfailed⟩ :=
        Lint.exists_failed_of_isReport config area tools timeout hreport hnot
      rw [hfailed] at htranscribes
      exact Lint.info.not_transcribes_failed _ _ htranscribes
    · rintro ⟨hwithin, hhash⟩
      rw [Lint.outcome_of_isReport config area tools timeout hreport hwithin hhash]
      refine Lint.info.completed_transcribes _ ?_ _
      exact firstById_map_firstBy (fun _ _ => Lint.id_transcript_of_place_eq) _
  · intro hfile packages hreport
    constructor
    · intro htranscribes
      by_contra hnot
      obtain ⟨error, hfailed⟩ :=
        Audit.exists_failed_of_isReport config area tools timeout hfile hreport hnot
      rw [hfailed] at htranscribes
      exact Audit.info.not_transcribes_failed _ _ htranscribes
    · rintro ⟨hwithin, hhash⟩
      rw [Audit.outcome_of_isReport config area tools timeout hfile hreport hwithin hhash]
      exact Audit.info.completed_transcribes _ rfl _

/-! ### Two reports -/

namespace Sample

/-- An area with a manifest. -/
def packageArea : WorkingArea :=
  ⟨.parse "/tmp/scan", .parse "/tmp/scan", some [("package.json", .file [])]⟩

/-- What the analyzers meet besides the reports. -/
def idle : Tools := ⟨.timedOut, .timedOut, .int 1⟩

/-- A message with the level of an error. -/
def unused : Lint.Message := ⟨some "no-unused-vars", "unused", some 3, some (.int 2), .null⟩

/-- The report of the linter with this message. -/
def lintReport : ToolOutput where
  stdout := "[\x7b\"filePath\":\"a.js\",\"messages\":[\x7b\"ruleId\":\"no-unused-vars\","
    ++ "\"severity\":2,\"message\":\"unused\",\"line\":3\x7d]\x7d]"
  stderr := ""
  exitCode := 1

/-- A package with a vulnerability of its own and one of another package. -/
def lodash : Audit.Package :=
  ⟨"lodash", some "moderate", .origins [.advisory (some "Pollution") none, .package "x"], .null,
    .null⟩

/-- The report of the audit with this package. -/
def auditReport : ToolOutput where
  stdout := "\x7b\"vulnerabilities\":\x7b\"lodash\":\x7b\"severity\":\"moderate\","
    ++ "\"via\":[\x7b\"title\":\"Pollution\"\x7d,\"x\"]\x7d\x7d\x7d"
  stderr := ""
  exitCode := 1

/-- The manifest is there. -/
theorem hasFile_packageArea : packageArea.hasFile Audit.manifest = true := by
  have hfollow : Directory.follow [("tmp", .directory [("scan", .directory
      [("package.json", .file [])])])] Standpoint.linkLimit ["tmp", "scan"] ["package.json"]
        = .ok (.node ["tmp", "scan", "package.json"] (.file [])) := by
    rw [Directory.follow]
    rfl
  have hlocate : (Standpoint.inside [("package.json", .file [])] ["tmp", "scan"]).locate
      (.parse "package.json") = .ok (.node ["tmp", "scan", "package.json"] (.file [])) := by
    rw [Standpoint.locate, if_neg (by decide +kernel), if_neg (by decide +kernel)]
    exact hfollow
  show (Standpoint.inside [("package.json", .file [])] ["tmp", "scan"]).isFile
    (.parse "package.json") = true
  rw [Standpoint.isFile, Standpoint.find, hlocate]

theorem isReport_lintReport : Lint.IsReport [⟨"a.js", [unused]⟩] lintReport.stdout := by
  refine ⟨[.obj [("filePath", .str "a.js"), ("messages", .arr [.obj
    [("ruleId", .str "no-unused-vars"), ("severity", .int 2), ("message", .str "unused"),
      ("line", .int 3)]])]], by decide +kernel, .cons ?_ .nil⟩
  exact ⟨rfl, _, rfl, .cons ⟨rfl, rfl, rfl, rfl, rfl, rfl⟩ .nil⟩

theorem isReport_auditReport : Audit.IsReport [lodash] auditReport.stdout := by
  refine ⟨_, [("lodash", .obj [("severity", .str "moderate"), ("via", .arr
    [.obj [("title", .str "Pollution")], .str "x"])])],
    (by decide +kernel : Json.readText? auditReport.stdout = some (.obj [("vulnerabilities",
      .obj [("lodash", .obj [("severity", .str "moderate"), ("via", .arr
        [.obj [("title", .str "Pollution")], .str "x"])])])])), rfl, .inl rfl, .cons ?_ .nil⟩
  exact ⟨rfl, rfl, .origins (.cons (.advisory rfl rfl) (.cons (.package "x") .nil)), rfl, rfl⟩

/-- Both reports are transcribed. -/
theorem reports_transcribed_sample :
    Lint.IsReport [⟨"a.js", [unused]⟩] lintReport.stdout
      ∧ packageArea.hasFile Audit.manifest = true ∧ Audit.IsReport [lodash] auditReport.stdout
      ∧ (Lint.outcome {} packageArea idle (.int 60) lintReport).findings
          = [unused.finding "a.js"]
      ∧ (Audit.outcome {} packageArea idle (.int 60) auditReport).findings = [lodash.finding] := by
  have hwithin : Json.WithinLimits lintReport.stdout.toList
      ∧ Json.WithinLimits auditReport.stdout.toList := by
    constructor <;> exact Json.withinLimits_of_length (by decide +kernel)
  have hhash : (Lint.messagesIn packageArea [⟨"a.js", [unused]⟩]).all Lint.isHashable = true
      ∧ [lodash].all Audit.isHashable = true := by
    constructor <;> decide +kernel
  have hlint := ((reports_transcribed_iff {} packageArea idle (.int 60) lintReport).1 _
    isReport_lintReport).mpr ⟨hwithin.1, hhash.1⟩
  have haudit := ((reports_transcribed_iff {} packageArea idle (.int 60) auditReport).2
    hasFile_packageArea _ isReport_auditReport).mpr ⟨hwithin.2, hhash.2⟩
  exact ⟨isReport_lintReport, hasFile_packageArea, isReport_auditReport,
    hlint.findings_iff.mpr (List.nodup_singleton _),
    haudit.findings_iff.mpr (List.nodup_singleton _)⟩

/-- Two files with a message each.  The rules and the files differ, but joined by a colon they are
    the same. -/
def blurredEntries : List Lint.Entry :=
  [⟨"b:c", [⟨some "a", "first", some 1, none, .null⟩]⟩,
    ⟨"c", [⟨some "a:b", "second", some 1, none, .null⟩]⟩]

/-- The report about these files. -/
def blurredReport : ToolOutput where
  stdout := "[\x7b\"filePath\":\"b:c\",\"messages\":[\x7b\"ruleId\":\"a\",\"message\":\"first\","
    ++ "\"line\":1\x7d]\x7d,\x7b\"filePath\":\"c\",\"messages\":[\x7b\"ruleId\":\"a:b\","
    ++ "\"message\":\"second\",\"line\":1\x7d]\x7d]"
  stderr := ""
  exitCode := 1

theorem isReport_blurredReport : Lint.IsReport blurredEntries blurredReport.stdout := by
  refine ⟨[.obj [("filePath", .str "b:c"), ("messages", .arr [.obj [("ruleId", .str "a"),
      ("message", .str "first"), ("line", .int 1)]])],
    .obj [("filePath", .str "c"), ("messages", .arr [.obj [("ruleId", .str "a:b"),
      ("message", .str "second"), ("line", .int 1)]])]], by decide +kernel, ?_⟩
  exact .cons ⟨rfl, _, rfl, .cons ⟨rfl, rfl, rfl, rfl, rfl, rfl⟩ .nil⟩
    (.cons ⟨rfl, _, rfl, .cons ⟨rfl, rfl, rfl, rfl, rfl, rfl⟩ .nil⟩ .nil)

/-- Both messages are to be shown, but one of them is lost. -/
theorem message_of_blurredReport_lost :
    Lint.IsReport blurredEntries blurredReport.stdout
      ∧ (firstBy Lint.place (Lint.messagesIn packageArea blurredEntries)).map Lint.place
          = [("a", "b:c", some 1), ("a:b", "c", some 1)]
      ∧ (Lint.outcome {} packageArea idle (.int 60) blurredReport).findings.map (·.message)
          = [.str "first"] := by
  have hwithin : Json.WithinLimits blurredReport.stdout.toList :=
    Json.withinLimits_of_length (by decide +kernel)
  refine ⟨isReport_blurredReport, by decide +kernel, ?_⟩
  rw [Lint.outcome_of_isReport _ _ _ _ isReport_blurredReport hwithin (by decide +kernel)]
  decide +kernel

end Sample

end PlainScan

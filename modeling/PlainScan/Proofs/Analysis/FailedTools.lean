import PlainScan.Proofs.Analysis.Issues
import PlainScan.Proofs.Analysis.Reports

namespace PlainScan

/-!
# Tools that fail

A tool that fails tells so by its exit code.  The analyzers go by what it wrote instead: if that is
a report, the report is gone through and counts as complete.  So a failure is passed over exactly if
the tool wrote a report without any issue in it.

* `Analysis.ShowsFailure` — an outcome that tells of a failure.
* `AnalyzerInfo.EndsAs` — how the analyzer of a tool ends.
* `Lint.IsEmptyReport`, `Audit.IsEmptyReport` — a report without issues.
* `Lint.endsAs`, `Audit.endsAs` — the analyzers go by the report, whatever the exit code is.
* `failures_shown_iff` — which failures are shown.
-/

/-! ### Outcomes -/

/-- The outcome tells that something went wrong. -/
structure Analysis.ShowsFailure (r : Analysis) : Prop where
  degraded : r.status = .degraded
  reason : r.reason.isSome = true
  error : r.error.isSome = true

theorem AnalyzerInfo.showsFailure_failed (a : AnalyzerInfo) (reason : StatusReason)
    (error : String) : (a.failed reason error).ShowsFailure :=
  ⟨rfl, rfl, rfl⟩

/-- How the analyzer of a tool ends: it goes through the issues of a report, or it fails.  There are
    no issues exactly if the report is empty, and then it does not fail. -/
inductive AnalyzerInfo.EndsAs (a : AnalyzerInfo) (empty : Prop) : Analysis → Prop
  | completed {cap : Nat} {found : List RawFinding} {files : Option Nat}
      (hempty : empty ↔ found = []) :
      a.EndsAs empty (a.completed ((Collector.mk cap [] 0).addAll found) files)
  | failed {reason : StatusReason} {error : String} (hempty : ¬ empty) :
      a.EndsAs empty (a.failed reason error)

/-- A failure is shown, unless there are issues, if the report is not empty, and only then. -/
theorem AnalyzerInfo.EndsAs.showsFailure_iff {a : AnalyzerInfo} {empty : Prop} {r : Analysis}
    (h : a.EndsAs empty r) : (r.totalIssues = 0 → r.ShowsFailure) ↔ ¬ empty := by
  cases h with
  | @completed cap found files hempty =>
    have htotal := (a.completed_keeps cap found files).totalIssues_eq
    rw [hempty, htotal, List.length_eq_zero_iff]
    -- what is complete shows no failure
    have hnot : ¬ (a.completed ((Collector.mk cap [] 0).addAll found) files).ShowsFailure := by
      intro hshows
      cases hshows.degraded
    exact imp_congr_right fun _ => iff_of_false hnot not_false
  | failed hempty => exact iff_of_true (fun _ => a.showsFailure_failed _ _) hempty

/-! ### The linter -/

namespace Lint

/-- An entry without messages: it names its file by a text, if at all, and where its messages should
    be there is nothing. -/
structure IsEmptyEntry (entry : Json) : Prop where
  path : ∀ path, entry.field? "filePath" = some path → ∃ text, path = .str text
  messages : entry.field? "messages" ∈ [none, some (.arr []), some (.str ""), some (.obj [])]

/-- A report in which no entry has messages; what is no object is no entry. -/
def IsEmptyReport (stdout : String) : Prop :=
  ∃ entries, Json.attemptText stdout = .ok (some (.arr entries)) ∧
    ∀ entry ∈ entries, entry.isObject = true → IsEmptyEntry entry

/-- There are no messages exactly where there is nothing. -/
theorem messagesOf_eq_ok_nil_iff (entry : Json) :
    messagesOf entry = .ok [] ↔
      entry.field? "messages" ∈ [none, some (.arr []), some (.str ""), some (.obj [])] := by
  rw [messagesOf]
  cases entry.field? "messages" with
  | none => simp
  | some value =>
    cases value with
    | arr items =>
      by_cases hobjects : items.all Json.isObject = true
      · simp [hobjects]
      · have hne : items ≠ [] := by
          rintro rfl
          exact hobjects rfl
        simp [hobjects, hne]
    | str text => simp
    | obj fields => simp
    | _ => simp

/-- Messages come to nothing exactly if there are none. -/
theorem messageFindings_eq_ok_nil_iff (file : String) (messages : List Json) :
    messageFindings file messages = .ok [] ↔ messages = [] := by
  constructor
  · intro h
    exact List.map_eq_nil_iff.mp (eq_of_messageFindings h).symm
  · rintro rfl
    rfl

/-- An entry comes to nothing exactly if it is an empty one. -/
theorem fileFindings_eq_ok_nil_iff (area : WorkingArea) (entry : Json) :
    fileFindings area entry = .ok [] ↔ (entry.isObject = true → IsEmptyEntry entry) := by
  rw [fileFindings]
  by_cases hobject : entry.isObject = true
  · rw [if_neg (by simp [hobject]), forall_prop_of_true hobject]
    -- a missing path counts as an empty one
    have hpath : (∀ path, entry.field? "filePath" = some path → ∃ text, path = .str text) ↔
        ∃ text, (entry.field? "filePath").getD (.str "") = .str text := by
      cases entry.field? "filePath" <;> simp
    have hempty : IsEmptyEntry entry ↔
        (∃ text, (entry.field? "filePath").getD (.str "") = .str text)
          ∧ messagesOf entry = .ok [] := by
      rw [← hpath, messagesOf_eq_ok_nil_iff]
      exact ⟨fun h => ⟨h.path, h.messages⟩, fun h => ⟨h.1, h.2⟩⟩
    rw [hempty]
    cases (entry.field? "filePath").getD (.str "") with
    | str text =>
      cases messagesOf entry with
      | ok messages => simp [messageFindings_eq_ok_nil_iff]
      | error crash => simp
    | _ => simp
  · simp [hobject]

/-- A report comes to nothing exactly if every entry does. -/
theorem findings_eq_ok_nil_iff (area : WorkingArea) (entries : List Json) :
    findings area entries = .ok [] ↔
      ∀ entry ∈ entries, entry.isObject = true → IsEmptyEntry entry := by
  induction entries with
  | nil => simp [findings]
  | cons entry rest ih =>
    rw [List.forall_mem_cons, ← fileFindings_eq_ok_nil_iff area, ← ih, findings]
    cases fileFindings area entry with
    | error crash => simp
    | ok here =>
      cases findings area rest with
      | error crash => simp
      | ok more => simp

/-- **The linter.** Whatever the exit code is, it goes by the report. -/
theorem endsAs (config : Config) (area : WorkingArea) (output : ToolOutput) :
    info.EndsAs (IsEmptyReport output.stdout)
      (info.ofResult (analyzeOutput config area output)) := by
  by_cases hreport : ∃ entries, Json.attemptText output.stdout = .ok (some (.arr entries))
  · obtain ⟨entries, hreport⟩ := hreport
    have hempty : IsEmptyReport output.stdout ↔ findings area entries = .ok [] := by
      rw [IsEmptyReport, hreport, findings_eq_ok_nil_iff]
      simp
    rw [analyzeOutput_of_report config area hreport, analyzeReport]
    cases hfindings : findings area entries with
    | ok found => exact .completed (by rw [hempty, hfindings, Except.ok.injEq])
    | error crash => exact .failed (by simp [hempty, hfindings])
  · obtain ⟨error, hfailed⟩ := exists_failed_of_no_report config area hreport
    rw [hfailed]
    refine .failed ?_
    rintro ⟨entries, hread, -⟩
    exact hreport ⟨entries, hread⟩

end Lint

/-! ### The audit -/

namespace Audit

/-- A report of no failure and of no vulnerable package; what is no object is no package. -/
def IsEmptyReport (stdout : String) : Prop :=
  ∃ fields, Json.attemptText stdout = .ok (some (.obj fields)) ∧
    ((Json.obj fields).fieldD "error").isObject = false ∧
    (((Json.obj fields).fieldD "vulnerabilities").holds = false ∨
      ∃ packages, (Json.obj fields).fieldD "vulnerabilities" = .obj packages ∧
        ∀ package ∈ packages, package.2.isObject = false)

/-- There are no vulnerable packages exactly if no entry is an object. -/
theorem findings_eq_ok_nil_iff (packages : Fields) :
    findings packages = .ok [] ↔ ∀ package ∈ packages, package.2.isObject = false := by
  induction packages with
  | nil => simp [findings]
  | cons package rest ih =>
    obtain ⟨name, entry⟩ := package
    rw [List.forall_mem_cons, ← ih, findings]
    cases findings rest with
    | error crash => simp
    | ok more =>
      cases hentry : entry.isObject with
      | false => simp
      | true =>
        cases packageFinding name entry <;> simp

/-- A report is gone through unless it tells of a failure. -/
theorem endsAs_analyzeReport (config : Config) (fields : Fields) :
    info.EndsAs (((Json.obj fields).fieldD "error").isObject = false ∧
        (((Json.obj fields).fieldD "vulnerabilities").holds = false ∨
          ∃ packages, (Json.obj fields).fieldD "vulnerabilities" = .obj packages ∧
            ∀ package ∈ packages, package.2.isObject = false))
      (info.ofResult (analyzeReport config (.obj fields))) := by
  rw [analyzeReport]
  cases herror : ((Json.obj fields).fieldD "error").isObject with
  -- an error object is a failure, whatever stands beside it
  | true => exact .failed (by simp)
  | false =>
    rw [if_neg Bool.false_ne_true]
    -- what stands for the packages decides: nothing, an object, or something else
    generalize (Json.obj fields).fieldD "vulnerabilities" = packages
    cases hholds : packages.holds with
    | false =>
      rw [Json.orElse, if_neg (by simp [hholds])]
      exact @AnalyzerInfo.EndsAs.completed info _ config.maxFindingsPerPanel [] none (by simp)
    | true =>
      rw [Json.orElse_of_holds hholds]
      cases packages with
      | obj entries =>
        have hempty : (∃ packages, Json.obj entries = .obj packages ∧
            ∀ package ∈ packages, package.2.isObject = false) ↔ findings entries = .ok [] := by
          rw [findings_eq_ok_nil_iff]
          simp
        simp only [hempty, true_and, Bool.true_eq_false, false_or]
        cases hfindings : findings entries with
        | ok found => exact .completed (by rw [Except.ok.injEq])
        | error crash => exact .failed (by simp)
      | _ => exact .failed (by simp)

/-- **The audit.** Whatever the exit code is, it goes by the report. -/
theorem endsAs (config : Config) (output : ToolOutput) :
    info.EndsAs (IsEmptyReport output.stdout) (info.ofResult (analyzeOutput config output)) := by
  by_cases hreport : ∃ fields, Json.attemptText output.stdout = .ok (some (.obj fields))
  · obtain ⟨fields, hreport⟩ := hreport
    rw [analyzeOutput_of_report config hreport, IsEmptyReport, hreport]
    simpa using endsAs_analyzeReport config fields
  · obtain ⟨error, hfailed⟩ := exists_failed_of_no_report config hreport
    rw [hfailed]
    refine .failed ?_
    rintro ⟨fields, hread, -⟩
    exact hreport ⟨fields, hread⟩

end Audit

/-! ### Both -/

section

variable (config : Config) (area : WorkingArea) (tools : Tools) (timeout : Number)
  (output : ToolOutput)

/-- The outcome of the linter if its tool came to its end. -/
def Lint.outcome : Analysis :=
  Analyzer.lint.run config area { tools with lint := .finished output } timeout

/-- The outcome of the audit if its tool came to its end. -/
def Audit.outcome : Analysis :=
  Analyzer.audit.run config area { tools with audit := .finished output } timeout

/-- With a manifest the audit goes by what its tool wrote. -/
theorem Audit.outcome_of_hasFile (hfile : area.hasFile manifest = true) :
    outcome config area tools timeout output = info.ofResult (analyzeOutput config output) := by
  show info.ofResult (analyze config area (.finished output)) = _
  rw [analyze, hfile]
  rfl

/-- **Tools that fail.** If the linter ends with the code of a failure and no issue was found, then
    the outcome tells of the failure, unless the linter wrote a report without messages.  If the
    audit does, and there is a manifest, then so does its outcome, unless it wrote a report without
    vulnerable packages.  Only then a failure is passed over; a report beyond a limit of the reader
    is shown as one. -/
theorem failures_shown_iff :
    ((Lint.isReportCode output.exitCode = false →
          (Lint.outcome config area tools timeout output).totalIssues = 0 →
          (Lint.outcome config area tools timeout output).ShowsFailure) ↔
        (Lint.isReportCode output.exitCode = false → ¬ Lint.IsEmptyReport output.stdout)) ∧
      ((area.hasFile Audit.manifest = true → output.exitCode ≠ 0 →
          (Audit.outcome config area tools timeout output).totalIssues = 0 →
          (Audit.outcome config area tools timeout output).ShowsFailure) ↔
        (area.hasFile Audit.manifest = true → output.exitCode ≠ 0 →
          ¬ Audit.IsEmptyReport output.stdout)) := by
  constructor
  · exact imp_congr_right fun _ => (Lint.endsAs config area output).showsFailure_iff
  · refine imp_congr_right fun hfile => imp_congr_right fun _ => ?_
    rw [Audit.outcome_of_hasFile config area tools timeout output hfile]
    exact (Audit.endsAs config output).showsFailure_iff

end

/-! ### A failure with an empty report -/

namespace Sample

/-- The linter writes an empty report and ends with the code of a failure. -/
def emptyReport : ToolOutput := ⟨"[]", "", 2⟩

/-- The outcome of this run. -/
abbrev emptyRun : Analysis :=
  Lint.outcome {} ⟨.parse "/tmp/scan", .parse "/tmp/scan", some []⟩ ⟨.timedOut, .timedOut, .int 1⟩
    (.int 60) emptyReport

/-- The failure is not shown: the run counts as complete, without an issue and without an error. -/
theorem failure_of_emptyRun_hidden :
    Lint.isReportCode emptyReport.exitCode = false ∧ emptyRun.totalIssues = 0 ∧
      emptyRun.status = .completed ∧ emptyRun.reason = none ∧ emptyRun.error = none := by
  refine ⟨by decide, ?_, ?_, ?_, ?_⟩ <;> decide +kernel

end Sample

end PlainScan

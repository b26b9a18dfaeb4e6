import PlainScan.Analysis.Analyzer
import PlainScan.Proofs.Json.Limits
import PlainScan.Proofs.Text.Blank

namespace PlainScan

/-!
# Reports of the tools

A tool that wrote a report wrote more than blanks, so whatever its exit code is, the report is gone
through.

* `ToolOutput.not_isSilent`, `ToolOutput.not_isSilent_of_limit` — what is not all blank.
* `Lint.analyzeOutput_of_report`, `Audit.analyzeOutput_of_report` — a report is gone through.
* `Lint.exists_failed_of_no_report`, `Audit.exists_failed_of_no_report` — without one, or with one
  beyond a limit of the reader, the tool counts as failed.
-/

/-- A tool wrote something if one character is not blank. -/
theorem ToolOutput.not_isSilent {output : ToolOutput} {c : Char} {before behind : List Char}
    (htext : output.stdout.toList = before ++ c :: behind) (hc : Text.isBlank c = false) :
    output.isSilent = false := by
  rw [isSilent, htext]
  exact List.all_eq_false.mpr ⟨c, by simp, by simp [hc]⟩

/-- Blanks are within the limits of the reader. -/
theorem Json.withinLimits_of_isBlankText {text : List Char} (h : Text.isBlankText text = true) :
    WithinLimits text := by
  -- neither a bracket nor a digit is a blank
  have hcodes : ∀ n ∈ Text.blankCodes,
      isOpening (Char.ofNat n) = false ∧ (Char.ofNat n).isDigit = false := by decide
  have hnone : ∀ c ∈ text, isOpening c = false ∧ c.isDigit = false := by
    intro c hc
    have hcode := hcodes c.toNat (Text.toNat_mem_blankCodes (List.all_eq_true.mp h c hc))
    rwa [Char.ofNat_toNat] at hcode
  refine withinLimits_of_roomy ⟨?_, fun part hpart hdigits => ?_⟩
  · rw [List.countP_eq_zero.mpr fun c hc => Bool.eq_false_iff.mp (hnone c hc).1]
    exact Nat.zero_le _
  · have hnil : part = [] := by
      refine List.eq_nil_iff_forall_not_mem.mpr fun c hc => ?_
      have hdigit := hdigits c hc
      rw [(hnone c (hpart.subset hc)).2] at hdigit
      exact Bool.false_ne_true hdigit
    rw [hnil]
    exact Nat.zero_le _

/-- So it did if the reader breaks on what it wrote. -/
theorem ToolOutput.not_isSilent_of_limit {output : ToolOutput} {limit : Json.ReadLimit}
    (h : Json.attemptText output.stdout = .error limit) : output.isSilent = false := by
  rw [isSilent]
  cases hblank : Text.isBlankText output.stdout.toList with
  | false => rfl
  | true =>
    obtain ⟨value, hvalue⟩ := Json.withinLimits_of_isBlankText hblank
    cases h.symm.trans hvalue

/-- What became of what the linter wrote if the reader breaks on it. -/
theorem Lint.analyzeOutput_of_limit (config : Config) (area : WorkingArea) {output : ToolOutput}
    {limit : Json.ReadLimit} (h : Json.attemptText output.stdout = .error limit) :
    analyzeOutput config area output = .error (.unreadable limit) := by
  rw [analyzeOutput, output.not_isSilent_of_limit h, h, Bool.and_false]
  rfl

/-- What became of a report of the linter. -/
theorem Lint.analyzeOutput_of_report (config : Config) (area : WorkingArea) {output : ToolOutput}
    {entries : List Json} (h : Json.attemptText output.stdout = .ok (some (.arr entries))) :
    analyzeOutput config area output = analyzeReport config area entries := by
  have hread := (Json.attempt_eq_ok_iff.mp h).2.symm
  obtain ⟨sp, a, sp', -, -, hspells, htext⟩ := Json.read?_eq_some_iff.mp hread
  obtain ⟨rest, rfl⟩ := hspells.exists_cons_of_array
  rw [analyzeOutput, output.not_isSilent htext (by decide), h, Bool.and_false]
  rfl

/-- Without a report the linter counts as failed. -/
theorem Lint.exists_failed_of_no_report (config : Config) (area : WorkingArea) {output : ToolOutput}
    (h : ¬ ∃ entries, Json.attemptText output.stdout = .ok (some (.arr entries))) :
    ∃ error, info.ofResult (analyzeOutput config area output) = info.failed .toolError error := by
  rw [analyzeOutput]
  split
  · exact ⟨_, rfl⟩
  · cases hattempt : Json.attemptText output.stdout with
    | error limit => exact ⟨_, rfl⟩
    | ok report =>
      rcases report with _ | (_ | _ | _ | _ | _ | entries | _)
      case some.arr => exact absurd ⟨entries, hattempt⟩ h
      all_goals exact ⟨_, rfl⟩

/-- What became of a report of the audit. -/
theorem Audit.analyzeOutput_of_report (config : Config) {output : ToolOutput} {fields : Fields}
    (h : Json.attemptText output.stdout = .ok (some (.obj fields))) :
    analyzeOutput config output = analyzeReport config (.obj fields) := by
  have hread := (Json.attempt_eq_ok_iff.mp h).2.symm
  obtain ⟨sp, a, sp', -, -, hspells, htext⟩ := Json.read?_eq_some_iff.mp hread
  obtain ⟨rest, rfl⟩ := hspells.exists_cons_of_object
  rw [analyzeOutput, output.not_isSilent htext (by decide), h]
  rfl

/-- Without a report the audit counts as failed. -/
theorem Audit.exists_failed_of_no_report (config : Config) {output : ToolOutput}
    (h : ¬ ∃ fields, Json.attemptText output.stdout = .ok (some (.obj fields))) :
    ∃ error, info.ofResult (analyzeOutput config output) = info.failed .toolError error := by
  rw [analyzeOutput]
  split
  · exact ⟨_, rfl⟩
  · cases hattempt : Json.attemptText output.stdout with
    | error limit => exact ⟨_, rfl⟩
    | ok report =>
      rcases report with _ | (_ | _ | _ | _ | _ | _ | fields)
      case some.obj => exact absurd ⟨fields, hattempt⟩ h
      all_goals exact ⟨_, rfl⟩

end PlainScan

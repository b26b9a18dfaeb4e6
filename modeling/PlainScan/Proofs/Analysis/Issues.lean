import PlainScan.Analysis.Analyzer
import PlainScan.Proofs.Analysis.Collecting
import PlainScan.Proofs.Json.Plain

namespace PlainScan

/-!
# The issues that an analyzer meets

An analyzer shows a part of what it meets.  This file says what it meets, apart from what it shows,
and how the two are related.

* `Analyzer.issues` — every issue of a run in the order in which the analyzer meets it.  A crash
  loses what was met before it.
* `Analysis.Keeps` — the outcome holds the first distinct issues up to a cap and counts them all.
* `Analyzer.run_keeps` — every outcome of every analyzer does so.
* `Analyzer.isTextual_of_ne_lint` — only the linter passes on messages that are no texts.
-/

/-! ### Issues -/

/-- What a search for issues came upon; nothing where it crashed. -/
def issuesOf : Except Crash (List RawFinding) → List RawFinding
  | .ok found => found
  | .error _ => []

/-- The messages in the report of the linter, if there is a report. -/
def Lint.issues (area : WorkingArea) : ToolOutcome → List RawFinding
  | .finished output =>
    if !isReportCode output.exitCode && output.isSilent then []
    else
      match Json.attemptText output.stdout with
      | .ok (some (.arr entries)) => issuesOf (findings area entries)
      | _ => []
  | _ => []

/-- The vulnerable packages in a report of the audit, unless it reports its own failure. -/
def Audit.reportIssues (report : Json) : List RawFinding :=
  if (report.fieldD "error").isObject then []
  else
    match (report.fieldD "vulnerabilities").orElse (.obj []) with
    | .obj entries => issuesOf (findings entries)
    | _ => []

/-- The vulnerable packages in the report of the audit, if it was asked and gave one. -/
def Audit.issues (area : WorkingArea) (tool : ToolOutcome) : List RawFinding :=
  if !area.hasFile manifest then []
  else
    match tool with
    | .finished output =>
      if output.isSilent then []
      else
        match Json.attemptText output.stdout with
        | .ok (some (.obj fields)) => reportIssues (.obj fields)
        | _ => []
    | _ => []

/-- The secrets in the files that the walk reaches in time. -/
def Secrets.issues (config : Config) (area : WorkingArea) (deadline : Deadline) :
    List RawFinding :=
  match area.walk? config.ignoredDirectories deadline with
  | none => []
  | some walk =>
    issuesOf (filesFindings config area (walk.files.filter fun f => isScannedName config f.path))

/-- The faults in the pages that the walk reaches in time. -/
def Accessibility.issues (config : Config) (area : WorkingArea) (deadline : Deadline) :
    List RawFinding :=
  match area.walk? config.ignoredDirectories deadline with
  | none => []
  | some walk =>
    match filesFindings config area (walk.files.filter fun f => isPage f.path) with
    | .ok (_, found) => found
    | .error _ => []

/-- Every issue that an analyzer meets, in order. -/
def Analyzer.issues (config : Config) (area : WorkingArea) (tools : Tools) (timeout : Number) :
    Analyzer → List RawFinding
  | lint => Lint.issues area tools.lint
  | audit => Audit.issues area tools.audit
  | secrets => Secrets.issues config area ⟨tools.clockStep, timeout⟩
  | accessibility => Accessibility.issues config area ⟨tools.clockStep, timeout⟩

/-! ### What an outcome keeps of them -/

/-- The outcome of an analyzer that met some issues: it names the analyzer and its panel, and holds
    the first issues with distinct identifiers, up to a cap, and their number without regard to
    either. -/
structure Analysis.Keeps (r : Analysis) (a : AnalyzerInfo) (cap : Nat)
    (issues : List RawFinding) : Prop where
  analyzer_eq : r.analyzer = a.name
  panel_eq : r.panel = a.panel
  findings_eq : r.findings = (firstById issues).take cap
  totalIssues_eq : r.totalIssues = issues.length

/-- An outcome without findings keeps what there is if there is nothing. -/
theorem AnalyzerInfo.failed_keeps (a : AnalyzerInfo) (reason : StatusReason) (error : String)
    (cap : Nat) : (a.failed reason error).Keeps a cap [] :=
  ⟨rfl, rfl, List.take_nil.symm, rfl⟩

/-- An analyzer that comes to its end keeps what it collects. -/
theorem AnalyzerInfo.completed_keeps (a : AnalyzerInfo) (cap : Nat) (found : List RawFinding)
    (files : Option Nat) :
    (a.completed ((Collector.mk cap [] 0).addAll found) files).Keeps a cap found :=
  ⟨rfl, rfl, Collector.kept_fresh cap found, Collector.total_fresh cap found⟩

/-- An analyzer that is cut short keeps what it has collected. -/
theorem AnalyzerInfo.stopped_keeps (a : AnalyzerInfo) (reason : StatusReason) (error : String)
    (cap : Nat) (found : List RawFinding) (files : Option Nat) :
    (a.stopped reason error ((Collector.mk cap [] 0).addAll found) files).Keeps a cap found :=
  ⟨rfl, rfl, Collector.kept_fresh cap found, Collector.total_fresh cap found⟩

/-- The linter keeps what it meets. -/
theorem Lint.analyze_keeps (config : Config) (area : WorkingArea) (timeout : Number)
    (tool : ToolOutcome) :
    (info.ofResult (analyze config area timeout tool)).Keeps info config.maxFindingsPerPanel
      (issues area tool) := by
  cases tool with
  | finished output =>
    simp only [analyze, analyzeOutput, issues]
    by_cases hsilent : (!isReportCode output.exitCode && output.isSilent) = true
    · rw [if_pos hsilent, if_pos hsilent]
      exact info.failed_keeps _ _ _
    · rw [if_neg hsilent, if_neg hsilent]
      cases Json.attemptText output.stdout with
      | error limit => exact info.failed_keeps _ _ _
      | ok report =>
        -- only a list is gone through
        rcases report with _ | (_ | _ | _ | _ | _ | entries | _)
        case some.arr =>
          simp only [analyzeReport]
          cases findings area entries with
          | ok found => exact info.completed_keeps _ found _
          | error crash => exact info.failed_keeps _ _ _
        all_goals exact info.failed_keeps _ _ _
  | timedOut => exact info.failed_keeps _ _ _
  | neverEnds => exact info.failed_keeps _ _ _
  | notStarted text => exact info.failed_keeps _ _ _
  | failed text => exact info.failed_keeps _ _ _

/-- A report of the audit is kept. -/
theorem Audit.analyzeReport_keeps (config : Config) (report : Json) :
    (info.ofResult (analyzeReport config report)).Keeps info config.maxFindingsPerPanel
      (reportIssues report) := by
  rw [analyzeReport, reportIssues]
  by_cases herror : (report.fieldD "error").isObject = true
  · rw [if_pos herror, if_pos herror]
    exact info.failed_keeps _ _ _
  · rw [if_neg herror, if_neg herror]
    cases (report.fieldD "vulnerabilities").orElse (.obj []) with
    | obj entries =>
      dsimp only
      cases findings entries with
      | ok found => exact info.completed_keeps _ found _
      | error crash => exact info.failed_keeps _ _ _
    | _ => exact info.failed_keeps _ _ _

/-- The audit keeps what it meets. -/
theorem Audit.analyze_keeps (config : Config) (area : WorkingArea) (tool : ToolOutcome) :
    (info.ofResult (analyze config area tool)).Keeps info config.maxFindingsPerPanel
      (issues area tool) := by
  unfold analyze issues
  by_cases hfile : (!area.hasFile manifest) = true
  · rw [if_pos hfile, if_pos hfile]
    exact info.completed_keeps _ [] none
  · rw [if_neg hfile, if_neg hfile]
    cases tool with
    | finished output =>
      simp only [analyzeOutput]
      by_cases hsilent : output.isSilent = true
      · rw [if_pos hsilent, if_pos hsilent]
        exact info.failed_keeps _ _ _
      · rw [if_neg hsilent, if_neg hsilent]
        cases Json.attemptText output.stdout with
        | error limit => exact info.failed_keeps _ _ _
        | ok report =>
          -- only an object is gone through
          rcases report with _ | (_ | _ | _ | _ | _ | _ | fields)
          case some.obj => exact analyzeReport_keeps config _
          all_goals exact info.failed_keeps _ _ _
    | timedOut => exact info.failed_keeps _ _ _
    | neverEnds => exact info.failed_keeps _ _ _
    | notStarted text => exact info.failed_keeps _ _ _
    | failed text => exact info.failed_keeps _ _ _

/-- The search for secrets keeps what it meets, also where it is cut short. -/
theorem Secrets.analyze_keeps (config : Config) (area : WorkingArea) (deadline : Deadline) :
    (info.ofResult (analyze config area deadline)).Keeps info config.maxFindingsPerPanel
      (issues config area deadline) := by
  rw [analyze, issues]
  cases area.walk? config.ignoredDirectories deadline with
  | none => exact info.failed_keeps _ _ _
  | some walk =>
    dsimp only
    cases filesFindings config area _ with
    | error crash => exact info.failed_keeps _ _ _
    | ok found =>
      -- cut short or not, the same issues are collected
      dsimp only
      split
      · exact info.stopped_keeps _ _ _ found _
      · exact info.completed_keeps _ found _

/-- The search through pages keeps what it meets, also where it is cut short. -/
theorem Accessibility.analyze_keeps (config : Config) (area : WorkingArea) (deadline : Deadline) :
    (info.ofResult (analyze config area deadline)).Keeps info config.maxFindingsPerPanel
      (issues config area deadline) := by
  rw [analyze, issues]
  cases area.walk? config.ignoredDirectories deadline with
  | none => exact info.stopped_keeps _ _ _ [] _
  | some walk =>
    dsimp only
    cases filesFindings config area _ with
    | error crash => exact info.failed_keeps _ _ _
    | ok result =>
      obtain ⟨count, found⟩ := result
      dsimp only
      split
      · exact info.stopped_keeps _ _ _ found _
      · exact info.completed_keeps _ found _

/-- **What a run keeps.** Whatever an analyzer meets, its outcome holds the first distinct issues up
    to the cap and counts them all. -/
theorem Analyzer.run_keeps (config : Config) (area : WorkingArea) (tools : Tools)
    (timeout : Number) (a : Analyzer) :
    (a.run config area tools timeout).Keeps a.info config.maxFindingsPerPanel
      (a.issues config area tools timeout) := by
  cases a with
  | lint => exact Lint.analyze_keeps config area timeout tools.lint
  | audit => exact Audit.analyze_keeps config area tools.audit
  | secrets => exact Secrets.analyze_keeps config area _
  | accessibility => exact Accessibility.analyze_keeps config area _

/-! ### What issues are made of -/

/-- An issue of a search is a finding of that search. -/
theorem mem_issuesOf {f : RawFinding} {found : Except Crash (List RawFinding)}
    (h : f ∈ issuesOf found) : ∃ all, found = .ok all ∧ f ∈ all := by
  cases found with
  | ok all => exact ⟨all, rfl, h⟩
  | error crash => exact absurd h List.not_mem_nil

/-- What can be identified is what was found. -/
theorem eq_of_identified {path : String} {found all : List RawFinding}
    (h : identified path found = .ok all) : all = found := by
  unfold identified at h
  split at h
  · exact (Except.ok.inj h).symm
  · cases h

/-- Messages that can be identified become one finding each. -/
theorem Lint.eq_of_messageFindings {file : String} {messages : List Json} {found : List RawFinding}
    (h : messageFindings file messages = .ok found) : found = messages.map (finding file) := by
  unfold messageFindings at h
  split at h
  · exact (Except.ok.inj h).symm
  · cases h

/-- A finding in the entry of a file is that of a message. -/
theorem Lint.exists_of_mem_fileFindings {f : RawFinding} {area : WorkingArea} {result : Json}
    {found : List RawFinding} (h : fileFindings area result = .ok found) (hf : f ∈ found) :
    ∃ path message, f = finding (area.relativeText path) message := by
  unfold fileFindings at h
  split at h
  · cases h
    exact absurd hf List.not_mem_nil
  · split at h
    · next path _ =>
      split at h
      · rw [eq_of_messageFindings h] at hf
        obtain ⟨message, -, rfl⟩ := List.mem_map.mp hf
        exact ⟨path, message, rfl⟩
      · cases h
    · cases h

/-- A finding in a report is that of a message about a file. -/
theorem Lint.exists_of_mem_findings {f : RawFinding} {area : WorkingArea} {entries : List Json}
    {found : List RawFinding} (h : findings area entries = .ok found) (hf : f ∈ found) :
    ∃ path message, f = finding (area.relativeText path) message := by
  induction entries generalizing found with
  | nil =>
    cases h
    exact absurd hf List.not_mem_nil
  | cons result rest ih =>
    rw [findings] at h
    split at h
    · next hhere hmore =>
      cases h
      rcases List.mem_append.mp hf with hf | hf
      · exact exists_of_mem_fileFindings hhere hf
      · exact ih hmore hf
    · cases h
    · cases h

/-- An issue of the linter is the finding of a message about a file. -/
theorem Lint.exists_of_mem_issues {f : RawFinding} {area : WorkingArea} {tool : ToolOutcome}
    (h : f ∈ issues area tool) : ∃ path message, f = finding (area.relativeText path) message := by
  unfold issues at h
  -- only the branch of a report has issues at all
  repeat' split at h
  all_goals first
    | exact absurd h List.not_mem_nil
    | obtain ⟨all, hall, hf⟩ := mem_issuesOf h
      exact exists_of_mem_findings hall hf

/-- The finding about a package has a word for its severity and texts for where it comes from. -/
theorem Audit.exists_of_packageFinding {package : String} {entry : Json} {f : RawFinding}
    (h : packageFinding package entry = .ok f) :
    ∃ word via, f = finding package word via entry := by
  unfold packageFinding at h
  split at h
  · rename_i word _
    split at h
    · rename_i via _
      split at h
      · exact ⟨word, via, (Except.ok.inj h).symm⟩
      · cases h
    · cases h
  · cases h

/-- The audit writes the message of every issue itself. -/
theorem Audit.exists_of_mem_findings {f : RawFinding} {entries : Fields} {found : List RawFinding}
    (h : findings entries = .ok found) (hf : f ∈ found) :
    ∃ package word via entry, f = finding package word via entry := by
  induction entries generalizing found with
  | nil =>
    rw [findings, Except.ok.injEq] at h
    subst h
    exact absurd hf List.not_mem_nil
  | cons e rest ih =>
    obtain ⟨package, entry⟩ := e
    rw [findings] at h
    cases hmore : findings rest with
    | error crash => simp [hmore] at h
    | ok more =>
      simp only [hmore] at h
      by_cases hobj : (!entry.isObject) = true
      · rw [if_pos hobj, Except.ok.injEq] at h
        exact ih hmore (h ▸ hf)
      · rw [if_neg hobj] at h
        split at h
        · rename_i here hhere
          rw [Except.ok.injEq] at h
          subst h
          -- the finding is of the first package or of a further one
          rcases List.mem_cons.mp hf with rfl | hf
          · obtain ⟨word, via, hfinding⟩ := exists_of_packageFinding hhere
            exact ⟨package, word, via, entry, hfinding⟩
          · exact ih hmore hf
        · cases h

/-- An issue of the audit is the finding of a package. -/
theorem Audit.exists_of_mem_issues {f : RawFinding} {area : WorkingArea} {tool : ToolOutcome}
    (h : f ∈ issues area tool) : ∃ package word via entry, f = finding package word via entry := by
  unfold issues reportIssues at h
  -- only the last of the branches has issues at all
  repeat' split at h
  all_goals first
    | exact absurd h List.not_mem_nil
    | obtain ⟨all, hall, hf⟩ := mem_issuesOf h
      exact exists_of_mem_findings hall hf

/-- A finding in the lines of a file is that of a pattern at a place. -/
theorem Secrets.exists_of_mem_linesFindings {f : RawFinding} {path : FilePath} {number : Nat}
    {lines : List (List Char)} (h : f ∈ linesFindings path number lines) :
    ∃ line, ∃ p ∈ patterns, ∃ column, f = finding path line p column := by
  induction lines generalizing number with
  | nil => exact absurd h List.not_mem_nil
  | cons line rest ih =>
    rw [linesFindings, List.mem_append] at h
    rcases h with h | h
    · obtain ⟨⟨p, column⟩, hhit, rfl⟩ := List.mem_map.mp h
      obtain ⟨q, hq, hcolumn⟩ := List.mem_filterMap.mp hhit
      obtain ⟨_, -, hpair⟩ := Option.map_eq_some_iff.mp hcolumn
      cases hpair
      exact ⟨number, p, hq, column, rfl⟩
    · exact ih h

/-- So is a finding in a file. -/
theorem Secrets.exists_of_mem_fileFindings {config : Config} {area : WorkingArea}
    {f : RawFinding} {file : WalkedFile} {found : List RawFinding}
    (h : fileFindings config area file = .ok found) (hf : f ∈ found) :
    ∃ line, ∃ p ∈ patterns, ∃ column, f = finding (area.relative file.path) line p column := by
  unfold fileFindings at h
  split at h
  · cases h
  · split at h
    · -- a file that is too large
      cases h
      exact absurd hf List.not_mem_nil
    · rw [eq_of_identified h] at hf
      exact exists_of_mem_linesFindings hf

/-- A finding in some files is that of a pattern at a place of one of them. -/
theorem Secrets.exists_of_mem_filesFindings {config : Config} {area : WorkingArea}
    {f : RawFinding} {files : List WalkedFile} {found : List RawFinding}
    (h : filesFindings config area files = .ok found) (hf : f ∈ found) :
    ∃ file ∈ files, ∃ line, ∃ p ∈ patterns, ∃ column,
      f = finding (area.relative file.path) line p column := by
  induction files generalizing found with
  | nil =>
    rw [filesFindings, Except.ok.injEq] at h
    subst h
    exact absurd hf List.not_mem_nil
  | cons file rest ih =>
    rw [List.exists_mem_cons_iff]
    rw [filesFindings] at h
    split at h
    · rename_i here more hhere hmore
      rw [Except.ok.injEq] at h
      subst h
      -- the finding is of the first file or of a further one
      rcases List.mem_append.mp hf with hf | hf
      · exact .inl (exists_of_mem_fileFindings hhere hf)
      · exact .inr (ih hmore hf)
    · cases h
    · cases h

/-- An issue of the search for secrets is the finding of a pattern at a place of a file that the
    walk through the area comes upon. -/
theorem Secrets.exists_of_mem_issues {f : RawFinding} {config : Config} {area : WorkingArea}
    {deadline : Deadline} (h : f ∈ issues config area deadline) :
    ∃ walk, area.walk? config.ignoredDirectories deadline = some walk ∧ ∃ file ∈ walk.files,
      ∃ line, ∃ p ∈ patterns, ∃ column, f = finding (area.relative file.path) line p column := by
  unfold issues at h
  split at h
  · exact absurd h List.not_mem_nil
  · rename_i walk hwalk
    obtain ⟨all, hall, hf⟩ := mem_issuesOf h
    obtain ⟨file, hfile, hfinding⟩ := exists_of_mem_filesFindings hall hf
    exact ⟨walk, hwalk, file, List.mem_of_mem_filter hfile, hfinding⟩

/-- A finding in a page is that of a check or of a skip in the headings. -/
theorem Accessibility.exists_of_mem_contentFindings {f : RawFinding} {path : String}
    {text : List Char} (h : f ∈ contentFindings path text) :
    (∃ check ∈ checks, ∃ m, f = checkFinding path check m) ∨ ∃ skip, f = skipFinding path skip := by
  rw [contentFindings, List.mem_append] at h
  rcases h with h | h
  · obtain ⟨check, hcheck, h⟩ := List.mem_flatMap.mp h
    obtain ⟨m, -, rfl⟩ := List.mem_map.mp h
    exact Or.inl ⟨check, hcheck, m, rfl⟩
  · obtain ⟨skip, -, rfl⟩ := List.mem_map.mp h
    exact Or.inr ⟨skip, rfl⟩

/-- So is a finding in a file. -/
theorem Accessibility.exists_of_mem_fileFindings {config : Config} {area : WorkingArea}
    {f : RawFinding} {file : WalkedFile} {found : List RawFinding}
    (h : fileFindings config area file = .ok (some found)) (hf : f ∈ found) :
    (∃ check ∈ checks, ∃ m, f = checkFinding (area.relative file.path).text check m)
      ∨ ∃ skip, f = skipFinding (area.relative file.path).text skip := by
  unfold fileFindings at h
  split at h
  · cases h
  · split at h
    · cases h
    · obtain ⟨all, hall, hsome⟩ := map_eq_ok_iff.mp h
      cases hsome
      rw [eq_of_identified hall] at hf
      exact exists_of_mem_contentFindings hf

/-- A finding in some pages is that of a check or of a skip in the headings of one of them. -/
theorem Accessibility.exists_of_mem_filesFindings {config : Config} {area : WorkingArea}
    {f : RawFinding} {files : List WalkedFile} {count : Nat} {found : List RawFinding}
    (h : filesFindings config area files = .ok (count, found)) (hf : f ∈ found) :
    ∃ file ∈ files, (∃ check ∈ checks, ∃ m, f = checkFinding (area.relative file.path).text check m)
      ∨ ∃ skip, f = skipFinding (area.relative file.path).text skip := by
  induction files generalizing count found with
  | nil =>
    rw [filesFindings, Except.ok.injEq, Prod.mk.injEq] at h
    rw [← h.2] at hf
    exact absurd hf List.not_mem_nil
  | cons file rest ih =>
    rw [List.exists_mem_cons_iff]
    rw [filesFindings] at h
    split at h
    · rename_i more hrest
      rw [Except.ok.injEq] at h
      subst h
      -- the first page is passed over
      exact .inr (ih hrest hf)
    · rename_i here count' more hhere hrest
      rw [Except.ok.injEq, Prod.mk.injEq] at h
      rw [← h.2] at hf
      -- the finding is of the first page or of a further one
      rcases List.mem_append.mp hf with hf | hf
      · exact .inl (exists_of_mem_fileFindings hhere hf)
      · exact .inr (ih hrest hf)
    · cases h
    · cases h

/-- An issue of the search through pages is the finding of a check or of a skip in a file that the
    walk through the area comes upon. -/
theorem Accessibility.exists_of_mem_issues {f : RawFinding} {config : Config} {area : WorkingArea}
    {deadline : Deadline} (h : f ∈ issues config area deadline) :
    ∃ walk, area.walk? config.ignoredDirectories deadline = some walk ∧ ∃ file ∈ walk.files,
      (∃ check ∈ checks, ∃ m, f = checkFinding (area.relative file.path).text check m)
        ∨ ∃ skip, f = skipFinding (area.relative file.path).text skip := by
  unfold issues at h
  split at h
  · exact absurd h List.not_mem_nil
  · rename_i walk hwalk
    split at h
    · rename_i count found hfound
      obtain ⟨file, hfile, hfinding⟩ := exists_of_mem_filesFindings hfound h
      exact ⟨walk, hwalk, file, List.mem_of_mem_filter hfile, hfinding⟩
    · exact absurd h List.not_mem_nil

/-! ### Messages that are texts -/

/-- Whether the message of a finding is a text. -/
def RawFinding.IsTextual (f : RawFinding) : Prop := ∃ s, f.message = .str s

/-- **Texts.** All analyzers but the linter write the messages of their issues themselves. -/
theorem Analyzer.isTextual_of_ne_lint {config : Config} {area : WorkingArea} {tools : Tools}
    {timeout : Number} {a : Analyzer} (ha : a ≠ lint) {f : RawFinding}
    (hf : f ∈ a.issues config area tools timeout) : f.IsTextual := by
  cases a with
  | lint => exact absurd rfl ha
  | audit =>
    obtain ⟨package, word, via, entry, rfl⟩ := Audit.exists_of_mem_issues hf
    exact ⟨_, rfl⟩
  | secrets =>
    obtain ⟨-, -, -, -, line, p, -, column, rfl⟩ := Secrets.exists_of_mem_issues hf
    exact ⟨_, rfl⟩
  | accessibility =>
    obtain ⟨-, -, -, -, ⟨check, -, m, rfl⟩ | ⟨skip, rfl⟩⟩ := Accessibility.exists_of_mem_issues hf
    · exact ⟨_, rfl⟩
    · exact ⟨_, rfl⟩

end PlainScan

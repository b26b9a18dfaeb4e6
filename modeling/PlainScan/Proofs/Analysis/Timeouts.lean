import PlainScan.Proofs.Analysis.Hits
import PlainScan.Proofs.FileTree.Listing
import PlainScan.Proofs.FileTree.Timeouts

namespace PlainScan

open PlainScan.Text (Bytes)

/-!
# Analyses that are cut short

Two analyzers walk through the working area and look into some of the files on their way.  A timeout
cuts the walk, and with it the end of what they find; what they find before stays as it is, unless
the search breaks on a file that is only reached with more time.

* `Analyzer.looksInto`, `Analyzer.search` — the files that such an analyzer looks into, and what it
  finds in them.
* `Collector.kept_prefix` — what is kept stays when more is found.
* `Analyzer.search_append`, `Analyzer.exists_search_iff` — what is found in more files, and whether
  they can be searched at all.
* `Analyzer.summary` — the outcome of a search; `Analyzer.analyze_eq` — every outcome is one, unless
  the search breaks, which `Analyzer.filesAnalyzed_run_iff` tells.
* `Analyzer.longer_timeout_iff` — walks and outcomes with two timeouts.
-/

/-! ### Collecting -/

/-- What is kept stays when more issues are met. -/
theorem Collector.kept_prefix (c : Collector) (found more : List RawFinding) :
    (c.addAll found).kept <+: (c.addAll (found ++ more)).kept := by
  have hmore : c.addAll (found ++ more) = (c.addAll found).addAll more := List.foldl_append
  rw [hmore, kept_addAll (c.addAll found)]
  exact List.prefix_append _ _

/-! ### Searches -/

namespace Analyzer

variable {config : Config} {area : WorkingArea} {a : Analyzer}

/-- Whether an analyzer walks through the working area. -/
def Walks (a : Analyzer) : Prop := a = secrets ∨ a = accessibility

/-- Whether an analyzer that walks looks into a file. -/
def looksInto (config : Config) : Analyzer → FilePath → Bool
  | secrets => isScannedName config
  | accessibility => Accessibility.isPage
  | _ => fun _ => false

/-- The number of files that an analyzer counts among those that it looks into, and what it finds
    in them. -/
def search (config : Config) (area : WorkingArea) (files : List WalkedFile) :
    Analyzer → Except Crash (Nat × List RawFinding)
  | secrets => (Secrets.filesFindings config area files).map fun found => (files.length, found)
  | accessibility => Accessibility.filesFindings config area files
  | _ => .ok (0, [])

/-- The search of an analyzer that walks does not break on a file. -/
def CanSearch (config : Config) (area : WorkingArea) : Analyzer → WalkedFile → Prop
  | secrets => Secrets.CanSearch config area
  | accessibility => Accessibility.CanSearch config area
  | _ => fun _ => True

theorem secrets_search_eq_ok_iff {files : List WalkedFile} {count : Nat} {found : List RawFinding} :
    secrets.search config area files = .ok (count, found) ↔
      Secrets.filesFindings config area files = .ok found ∧ count = files.length := by
  rw [search]
  cases Secrets.filesFindings config area files with
  | error crash => simp [Except.map]
  | ok all => simp [Except.map, and_comm, eq_comm]

end Analyzer

/-- What is found in some files is found first in the first of them. -/
theorem Secrets.filesFindings_append {config : Config} {area : WorkingArea}
    {files more : List WalkedFile} {found : List RawFinding}
    (h : filesFindings config area (files ++ more) = .ok found) :
    ∃ here behind, filesFindings config area files = .ok here
      ∧ filesFindings config area more = .ok behind ∧ found = here ++ behind := by
  induction files generalizing found with
  | nil => exact ⟨[], found, rfl, h, rfl⟩
  | cons file rest ih =>
    rw [List.cons_append, filesFindings] at h
    split at h
    · next first others hfirst hothers =>
      cases h
      obtain ⟨here, behind, hhere, hbehind, rfl⟩ := ih hothers
      refine ⟨first ++ here, behind, ?_, hbehind, (List.append_assoc _ _ _).symm⟩
      rw [filesFindings, hfirst, hhere]
    · cases h
    · cases h

/-- So it is with pages, and those that were read are counted. -/
theorem Accessibility.filesFindings_append {config : Config} {area : WorkingArea}
    {files more : List WalkedFile} {count : Nat} {found : List RawFinding}
    (h : filesFindings config area (files ++ more) = .ok (count, found)) :
    ∃ m here n behind, filesFindings config area files = .ok (m, here)
      ∧ filesFindings config area more = .ok (n, behind) ∧ count = m + n
      ∧ found = here ++ behind := by
  induction files generalizing count found with
  | nil => exact ⟨0, [], count, found, rfl, h, (Nat.zero_add count).symm, rfl⟩
  | cons file rest ih =>
    rw [List.cons_append, filesFindings] at h
    split at h
    · next hfirst hothers =>
      cases h
      obtain ⟨m, here, n, behind, hhere, hbehind, rfl, rfl⟩ := ih hothers
      refine ⟨m, here, n, behind, ?_, hbehind, rfl, rfl⟩
      rw [filesFindings, hfirst, hhere]
    · next first read others hfirst hothers =>
      cases h
      obtain ⟨m, here, n, behind, hhere, hbehind, rfl, rfl⟩ := ih hothers
      refine ⟨m + 1, first ++ here, n, behind, ?_, hbehind, by omega,
        (List.append_assoc _ _ _).symm⟩
      rw [filesFindings, hfirst, hhere]
    · cases h
    · cases h

namespace Analyzer

variable {config : Config} {area : WorkingArea} {a : Analyzer}

/-- **More files.** What is found in some files is found first, and counted, in the first of them.
    -/
theorem search_append {files more : List WalkedFile} {count : Nat} {found : List RawFinding}
    (h : a.search config area (files ++ more) = .ok (count, found)) :
    ∃ m here behind, a.search config area files = .ok (m, here) ∧ m ≤ count
      ∧ found = here ++ behind := by
  cases a with
  | lint =>
    cases h
    exact ⟨0, [], [], rfl, Nat.le_refl 0, rfl⟩
  | audit =>
    cases h
    exact ⟨0, [], [], rfl, Nat.le_refl 0, rfl⟩
  | secrets =>
    obtain ⟨hfound, rfl⟩ := secrets_search_eq_ok_iff.mp h
    obtain ⟨here, behind, hhere, -, rfl⟩ := Secrets.filesFindings_append hfound
    refine ⟨files.length, here, behind, secrets_search_eq_ok_iff.mpr ⟨hhere, rfl⟩, ?_, rfl⟩
    rw [List.length_append]
    exact Nat.le_add_right _ _
  | accessibility =>
    obtain ⟨m, here, n, behind, hhere, -, rfl, rfl⟩ := Accessibility.filesFindings_append h
    exact ⟨m, here, behind, hhere, Nat.le_add_right m n, rfl⟩

/-- **Crashes.** The search of some files comes to its end exactly if it does not break on any of
    them. -/
theorem exists_search_iff (ha : a.Walks) (area : WorkingArea) (files : List WalkedFile) :
    (∃ count found, a.search config area files = .ok (count, found)) ↔
      ∀ file ∈ files, a.CanSearch config area file := by
  rcases ha with rfl | rfl
  · show _ ↔ ∀ file ∈ files, Secrets.CanSearch config area file
    rw [← Secrets.exists_filesFindings_iff]
    simp only [secrets_search_eq_ok_iff]
    exact ⟨fun ⟨_, found, hfound, _⟩ => ⟨found, hfound⟩,
      fun ⟨found, hfound⟩ => ⟨files.length, found, hfound, rfl⟩⟩
  · exact Accessibility.exists_filesFindings_iff

/-! ### Outcomes -/

/-- The word with which an analyzer that walks reports a timeout. -/
def title : Analyzer → String
  | secrets => "Secrets"
  | accessibility => "Accessibility"
  | _ => ""

/-- The outcome of a search, cut short or not. -/
def summary (a : Analyzer) (config : Config) (timeout : Number) (timedOut : Bool)
    (searched : Nat × List RawFinding) : Analysis :=
  let collector := (Collector.mk config.maxFindingsPerPanel [] 0).addAll searched.2
  if timedOut then
    a.info.stopped .timeout (a.title ++ " scan timeout after " ++ timeout.generalText ++ "s")
      collector (some searched.1)
  else a.info.completed collector (some searched.1)

/-- The files of a walk that an analyzer looks into, by way of the area. -/
def lookedInto (config : Config) (area : WorkingArea) (a : Analyzer) (walk : WalkResult) :
    List WalkedFile :=
  (walk.files.map area.placed).filter fun f => a.looksInto config f.path

/-- **Outcomes.** An analyzer that walks through an area reports its search of the files that it
    looks into. -/
theorem analyze_eq (ha : a.Walks) {root : Directory} (harea : area.content = some root)
    (tools : Tools) (timeout : Number) :
    a.analyze config area tools timeout =
      (a.search config area (lookedInto config area a
        (root.walk config.ignoredDirectories ⟨tools.clockStep, timeout⟩))).map
          (a.summary config timeout
            (root.walk config.ignoredDirectories ⟨tools.clockStep, timeout⟩).timedOut) := by
  have hwalk := area.walk?_eq harea config.ignoredDirectories ⟨tools.clockStep, timeout⟩
  generalize root.walk config.ignoredDirectories ⟨tools.clockStep, timeout⟩ = walk at hwalk ⊢
  rcases ha with rfl | rfl
  · rw [analyze, Secrets.analyze, hwalk, search]
    dsimp only [lookedInto, looksInto]
    cases Secrets.filesFindings config area _ with
    | error crash => rfl
    | ok found => cases walk.timedOut <;> rfl
  · rw [analyze, Accessibility.analyze, hwalk, search]
    dsimp only [lookedInto, looksInto]
    cases Accessibility.filesFindings config area _ with
    | error crash => rfl
    | ok searched => cases walk.timedOut <;> rfl

/-- A report holds what was collected of the findings, their number and the number of files, and it
    is degraded for the timeout exactly if the search was cut short. -/
theorem summary_spec (a : Analyzer) (config : Config) (timeout : Number) (timedOut : Bool)
    (count : Nat) (found : List RawFinding) :
    let r := a.summary config timeout timedOut (count, found)
    r.findings = ((Collector.mk config.maxFindingsPerPanel [] 0).addAll found).kept
      ∧ r.totalIssues = found.length ∧ r.filesAnalyzed = some count
      ∧ (r.status = .degraded ∧ r.reason = some .timeout ↔ timedOut = true) := by
  have htotal := Collector.total_fresh config.maxFindingsPerPanel found
  cases timedOut with
  | true =>
    simp only [summary, if_true, AnalyzerInfo.stopped, htotal, and_self]
  | false =>
    simp only [summary, Bool.false_eq_true, if_false, AnalyzerInfo.completed, htotal, reduceCtorEq,
      and_self]

/-! ### Files that are looked into -/

/-- The name alone decides whether a file is looked into. -/
theorem looksInto_below (p : FilePath) {q : FilePath} (h : q.components ≠ []) :
    a.looksInto config (p.below q.components) = a.looksInto config q := by
  cases a with
  | lint => rfl
  | audit => rfl
  | secrets => rw [looksInto, isScannedName_below config p h]
  | accessibility => rw [looksInto, Accessibility.isPage_below p h]

/-- What holds of the files that are looked into holds of those of a walk whose names tell for it.
    -/
theorem forall_lookedInto_iff (config : Config) (area : WorkingArea) (a : Analyzer)
    (root : Directory) (deadline : Deadline) {P : WalkedFile → Prop} :
    (∀ f ∈ lookedInto config area a (root.walk config.ignoredDirectories deadline), P f) ↔
      ∀ f ∈ (root.walk config.ignoredDirectories deadline).files,
        a.looksInto config f.path = true → P (area.placed f) := by
  rw [lookedInto, area.filter_placed (a.looksInto config) (fun q => looksInto_below area.location)
    fun f hf => (Directory.path_of_mem_files_walk hf).2]
  simp only [List.forall_mem_map, List.mem_filter, and_imp]

/-- A walk that goes on leads to more of them. -/
theorem lookedInto_prefix (config : Config) (area : WorkingArea) (a : Analyzer)
    {walk longer : WalkResult} (h : walk.files <+: longer.files) :
    lookedInto config area a walk <+: lookedInto config area a longer :=
  (h.map area.placed).filter _

/-! ### Runs -/

/-- A search that comes to its end is what a run reports. -/
theorem run_eq_summary (ha : a.Walks) {root : Directory} (harea : area.content = some root)
    {tools : Tools} {timeout : Number} {searched : Nat × List RawFinding}
    (h : a.search config area (lookedInto config area a
      (root.walk config.ignoredDirectories ⟨tools.clockStep, timeout⟩)) = .ok searched) :
    a.run config area tools timeout = a.summary config timeout
      (root.walk config.ignoredDirectories ⟨tools.clockStep, timeout⟩).timedOut searched := by
  rw [run, analyze_eq ha harea, h]
  rfl

/-- **Runs.** A run counts files exactly if its search does not break on any that it looks into. -/
theorem filesAnalyzed_run_iff (ha : a.Walks) {root : Directory} (harea : area.content = some root)
    (tools : Tools) (timeout : Number) :
    (∃ n, (a.run config area tools timeout).filesAnalyzed = some n) ↔
      ∀ f ∈ (root.walk config.ignoredDirectories ⟨tools.clockStep, timeout⟩).files,
        a.looksInto config f.path = true → a.CanSearch config area (area.placed f) := by
  rw [← forall_lookedInto_iff, ← exists_search_iff ha]
  constructor
  · rintro ⟨n, hn⟩
    rw [run, analyze_eq ha harea] at hn
    cases hsearch : a.search config area (lookedInto config area a
        (root.walk config.ignoredDirectories ⟨tools.clockStep, timeout⟩)) with
    | error crash =>
      -- a run that breaks counts nothing
      rw [hsearch] at hn
      cases hn
    | ok searched => exact ⟨searched.1, searched.2, rfl⟩
  · rintro ⟨count, found, hsearch⟩
    rw [run_eq_summary ha harea hsearch]
    exact ⟨count, (summary_spec a config timeout _ count found).2.2.1⟩

/-- A run that breaks reports nothing but that. -/
theorem run_of_not_canSearch (ha : a.Walks) {root : Directory} (harea : area.content = some root)
    {tools : Tools} {timeout : Number} {f : WalkedFile}
    (hf : f ∈ (root.walk config.ignoredDirectories ⟨tools.clockStep, timeout⟩).files)
    (hlooks : a.looksInto config f.path = true)
    (hbreaks : ¬ a.CanSearch config area (area.placed f)) :
    (a.run config area tools timeout).findings = []
      ∧ (a.run config area tools timeout).totalIssues = 0
      ∧ (a.run config area tools timeout).reason = some .toolError := by
  have hnone : ¬ ∃ count found, a.search config area (lookedInto config area a
      (root.walk config.ignoredDirectories ⟨tools.clockStep, timeout⟩)) = .ok (count, found) := by
    rw [exists_search_iff ha, forall_lookedInto_iff]
    exact fun hcan => hbreaks (hcan f hf hlooks)
  rw [run, analyze_eq ha harea]
  cases hsearch : a.search config area (lookedInto config area a
      (root.walk config.ignoredDirectories ⟨tools.clockStep, timeout⟩)) with
  | error crash => exact ⟨rfl, rfl, rfl⟩
  | ok searched => exact absurd ⟨searched.1, searched.2, hsearch⟩ hnone

/-- **Timeouts.** A walk comes upon the regular files before the first entry whose number of steps
    of the clock exceeds the timeout, and it is timed out exactly if there is such an entry; so with
    a longer timeout it comes upon the same files first.  An analyzer that walks through an area
    starts with the same findings if it has more time, has no fewer issues and no fewer files, and
    is degraded for the timeout exactly if its walk was cut, provided that its search does not break
    on a file that it looks into with more time; otherwise this fails. -/
theorem longer_timeout_iff (root : Directory) (config : Config) (area : WorkingArea)
    (tools : Tools) (a : Analyzer) :
    (∀ (ignored : List String) (step timeout : Number),
      (root.walk ignored ⟨step, timeout⟩).files
          = (((root.visits ignored).zipIdx 1).takeWhile
              fun v => !Deadline.isPast ⟨step, timeout⟩ v.2).filterMap (fun v => v.1.file?)
      ∧ ((root.walk ignored ⟨step, timeout⟩).timedOut = true ↔
          ∃ n, 1 ≤ n ∧ n ≤ (root.visits ignored).length
            ∧ Deadline.isPast ⟨step, timeout⟩ n = true)
      ∧ (∀ s t, step.units? = some s → timeout.units? = some t →
          ∀ n, Deadline.isPast ⟨step, timeout⟩ n = true ↔ t < n * s)
      ∧ ∀ longer, timeout.AtMost longer →
          (root.walk ignored ⟨step, timeout⟩).files <+: (root.walk ignored ⟨step, longer⟩).files)
    ∧ (area.content = some root → a.Walks →
      let walk := fun timeout => root.walk config.ignoredDirectories ⟨tools.clockStep, timeout⟩
      let run := fun timeout => a.run config area tools timeout
      ∀ timeout longer, timeout.AtMost longer →
        (((run timeout).findings <+: (run longer).findings
            ∧ (run timeout).totalIssues ≤ (run longer).totalIssues
            ∧ (∃ m n, (run timeout).filesAnalyzed = some m ∧ (run longer).filesAnalyzed = some n
              ∧ m ≤ n)
            ∧ ∀ t ∈ [timeout, longer], (run t).status = .degraded ∧ (run t).reason = some .timeout
              ↔ (walk t).timedOut = true)
          ↔ ∀ f ∈ (walk longer).files, a.looksInto config f.path = true →
              a.CanSearch config area (area.placed f))) := by
  refine ⟨fun ignored step timeout => ⟨root.files_walk_cut ignored _,
    root.timedOut_walk_iff ignored _, fun s t hs ht n => Deadline.isPast_iff hs ht n,
    fun longer h => root.files_walk_prefix ignored step h⟩, ?_⟩
  intro harea ha walk run timeout longer h
  constructor
  · -- a run that has counted its files has searched them all
    rintro ⟨-, -, ⟨-, n, -, hn, -⟩, -⟩
    exact (filesAnalyzed_run_iff ha harea tools longer).mp ⟨n, hn⟩
  · intro hcan
    obtain ⟨count', found', hsearch'⟩ := (exists_search_iff ha area _).mpr
      ((forall_lookedInto_iff config area a root ⟨tools.clockStep, longer⟩).mpr hcan)
    -- the shorter search is the start of the longer one
    obtain ⟨more, hmore⟩ := lookedInto_prefix config area a
      (root.files_walk_prefix config.ignoredDirectories tools.clockStep h)
    have hsplit := hsearch'
    rw [← hmore] at hsplit
    obtain ⟨count, found, behind, hsearch, hle, rfl⟩ := search_append hsplit
    have hrun : run timeout = _ := run_eq_summary ha harea hsearch
    have hrun' : run longer = _ := run_eq_summary ha harea hsearch'
    obtain ⟨hfindings, htotal, hfiles, hcut⟩ :=
      summary_spec a config timeout (walk timeout).timedOut count found
    obtain ⟨hfindings', htotal', hfiles', hcut'⟩ :=
      summary_spec a config longer (walk longer).timedOut count' (found ++ behind)
    refine ⟨?_, ?_, ⟨count, count', ?_, ?_, hle⟩, fun t ht => ?_⟩
    · rw [hrun, hrun', hfindings, hfindings']
      exact Collector.kept_prefix _ found behind
    · rw [hrun, hrun', htotal, htotal', List.length_append]
      exact Nat.le_add_right _ _
    · rw [hrun, hfiles]
    · rw [hrun', hfiles']
    · rcases List.mem_pair.mp ht with rfl | rfl
      · rw [hrun]
        exact hcut
      · rw [hrun']
        exact hcut'

end Analyzer

/-! ### A walk that is cut -/

namespace Sample

/-- A working area that holds the tree. -/
def backwardsArea : WorkingArea := ⟨.parse "/tmp/scan", .parse "/tmp/scan", some backwards⟩

/-- What the analyzers meet besides it; the clock moves on by a second with every entry. -/
def ticking : Tools := ⟨.timedOut, .timedOut, .int 1⟩

/-- The settings under which `bin` is ignored. -/
def withoutBin : Config := { ignoredDirectories := ["bin"] }

/-- The visits to the tree. -/
theorem visits_backwards : Directory.visits ["bin"] backwards
    = FileNode.visitsInside ["bin"] [] (.directory backwards.reverse) := by
  rw [Directory.visits, ← inOrder_backwards.eq_sorted namesDiffer_backwards]

/-- In nine seconds a walk comes upon both of its files. -/
theorem files_walk_backwards_nine :
    (Directory.walk backwards ["bin"] ⟨.int 1, .int 9⟩).files
      = [⟨⟨"", ["readme"]⟩, [2]⟩, ⟨⟨"", ["src", "main"]⟩, [1]⟩] := by
  rw [Directory.files_walk_cut, visits_backwards]
  simp only [Deadline.isPast_int]
  rfl

/-- Neither of them has a secret. -/
theorem canSearch_backwards :
    ∀ f ∈ (Directory.walk backwards ["bin"] ⟨.int 1, .int 9⟩).files,
      Secrets.CanSearch withoutBin backwardsArea (backwardsArea.placed f) := by
  have hnone : ∀ content ∈ ([[1], [2]] : List Bytes), ∀ line ∈ Text.splitLines (textOf content),
      Secrets.lineHits line = [] := by
    simp only [← List.isEmpty_iff]
    decide +kernel
  intro f hf
  have hcontent : f.content ∈ ([[1], [2]] : List Bytes) := by
    rw [files_walk_backwards_nine] at hf
    rcases List.mem_pair.mp hf with rfl | rfl <;> decide
  refine ⟨1048576, by decide +kernel, fun _ hfound => absurd ?_ hfound⟩
  exact Secrets.contentFindings_eq_nil_iff.mpr (hnone f.content hcontent)

/-- Three seconds are enough for `bin`, `home` and `readme`, and there is no secret in the tree. -/
theorem longer_timeout_backwards :
    backwardsArea.content = some backwards ∧ Analyzer.secrets.Walks
      ∧ (Number.int 3).AtMost (.int 9)
      ∧ (Directory.walk backwards ["bin"] ⟨.int 1, .int 3⟩).files = [⟨⟨"", ["readme"]⟩, [2]⟩]
      ∧ (Directory.walk backwards ["bin"] ⟨.int 1, .int 3⟩).timedOut = true
      ∧ (∀ f ∈ (Directory.walk backwards ["bin"] ⟨.int 1, .int 9⟩).files,
          Analyzer.secrets.looksInto withoutBin f.path = true →
          Analyzer.secrets.CanSearch withoutBin backwardsArea (backwardsArea.placed f))
      ∧ (Analyzer.secrets.run withoutBin backwardsArea ticking (.int 3)).status = .degraded
      ∧ (Analyzer.secrets.run withoutBin backwardsArea ticking (.int 3)).reason = some .timeout
      ∧ (Analyzer.secrets.run withoutBin backwardsArea ticking (.int 3)).findings
        <+: (Analyzer.secrets.run withoutBin backwardsArea ticking (.int 9)).findings := by
  have hle : (Number.int 3).AtMost (.int 9) := .units rfl rfl (by decide +kernel)
  obtain ⟨hwalks, hruns⟩ :=
    Analyzer.longer_timeout_iff backwards withoutBin backwardsArea ticking .secrets
  obtain ⟨hfiles, htimedOut, -, -⟩ := hwalks ["bin"] (.int 1) (.int 3)
  -- the fourth entry is late
  have hcut : (Directory.walk backwards ["bin"] ⟨.int 1, .int 3⟩).timedOut = true := by
    refine htimedOut.mpr ⟨4, by decide, ?_, by rw [Deadline.isPast_int]; rfl⟩
    rw [visits_backwards]
    decide
  have hcan : ∀ f ∈ (Directory.walk backwards ["bin"] ⟨.int 1, .int 9⟩).files,
      Analyzer.secrets.looksInto withoutBin f.path = true →
      Analyzer.secrets.CanSearch withoutBin backwardsArea (backwardsArea.placed f) :=
    fun f hf _ => canSearch_backwards f hf
  obtain ⟨hfindings, -, -, hdegraded⟩ := (hruns rfl (.inl rfl) _ _ hle).mpr hcan
  obtain ⟨hstatus, hreason⟩ := (hdegraded _ List.mem_cons_self).mpr hcut
  refine ⟨rfl, .inl rfl, hle, ?_, hcut, hcan, hstatus, hreason, hfindings⟩
  rw [hfiles, visits_backwards]
  simp only [Deadline.isPast_int]
  rfl

/-! ### More time and less to report -/

/-- The visits to the directory with the odd name. -/
theorem visits_oddRoot : Directory.visits ({} : Config).ignoredDirectories oddRoot
    = FileNode.visitsInside ({} : Config).ignoredDirectories [] (.directory oddRoot) := by
  rw [Directory.visits, ← inOrder_oddRoot.eq_sorted namesDiffer_oddRoot]

/-- In one second a walk comes upon the first of its files. -/
theorem walk_oddRoot_one :
    (Directory.walk oddRoot ({} : Config).ignoredDirectories ⟨.int 1, .int 1⟩).files
        = oddFiles.take 1
      ∧ (Directory.walk oddRoot ({} : Config).ignoredDirectories ⟨.int 1, .int 1⟩).timedOut
        = true := by
  constructor
  · rw [Directory.files_walk_cut, visits_oddRoot]
    simp only [Deadline.isPast_int]
    rfl
  · refine (Directory.timedOut_walk_iff _ _ _).mpr ⟨2, by decide, ?_, ?_⟩
    · rw [visits_oddRoot]
      decide +kernel
    · rw [Deadline.isPast_int]
      rfl

/-- In two seconds it comes upon both. -/
theorem files_walk_oddRoot_two :
    (Directory.walk oddRoot ({} : Config).ignoredDirectories ⟨.int 1, .int 2⟩).files
      = oddFiles := by
  rw [Directory.files_walk_cut, visits_oddRoot]
  simp only [Deadline.isPast_int]
  rfl

/-- The keys that are counted in the files that a walk comes upon. -/
theorem totalIssues_oddArea {timeout : Number} {files : List WalkedFile}
    (h : (Directory.walk oddRoot ({} : Config).ignoredDirectories ⟨.int 1, timeout⟩).files
      = files) :
    (Analyzer.secrets.run {} oddArea ticking timeout).totalIssues
      = if (Secrets.hits {} files).all (Secrets.Hit.isReportable {} oddArea) then
          (Secrets.hits {} files).length
        else 0 := by
  have hhits : Secrets.hitsIn {} oddArea ⟨ticking.clockStep, timeout⟩ = Secrets.hits {} files :=
    congrArg (Secrets.hits {}) h
  rw [Secrets.totalIssues_eq, hhits]

/-- **Two ways out.** With more time the search comes upon the odd name and loses what it found
    before, and where the limit for the size of files is no number of bytes, a search that is cut is
    not reported as such. -/
theorem longer_timeout_loses :
    (Number.int 1).AtMost (.int 2)
      ∧ (Analyzer.secrets.run {} oddArea ticking (.int 1)).totalIssues = 1
      ∧ (Analyzer.secrets.run {} oddArea ticking (.int 2)).totalIssues = 0
      ∧ (Directory.walk oddRoot hugeLimit.ignoredDirectories ⟨.int 1, .int 1⟩).timedOut = true
      ∧ (Analyzer.secrets.run hugeLimit oddArea ticking (.int 1)).reason = some .toolError := by
  refine ⟨.units rfl rfl (by decide +kernel), ?_, ?_, walk_oddRoot_one.2, ?_⟩
  · rw [totalIssues_oddArea walk_oddRoot_one.1]
    decide +kernel
  · rw [totalIssues_oddArea files_walk_oddRoot_two]
    decide +kernel
  · have hfirst : ⟨⟨"", ["a.js"]⟩, key⟩ ∈
        (Directory.walk oddRoot hugeLimit.ignoredDirectories ⟨.int 1, .int 1⟩).files := by
      have hfiles := walk_oddRoot_one.1
      show _ ∈ (Directory.walk oddRoot ({} : Config).ignoredDirectories ⟨.int 1, .int 1⟩).files
      rw [hfiles]
      exact List.mem_cons_self
    refine (Analyzer.run_of_not_canSearch (.inl rfl) rfl hfirst (by decide +kernel) ?_).2.2
    rintro ⟨limit, hlimit, -⟩
    rw [maxFileBytes?_hugeLimit] at hlimit
    cases hlimit

end Sample

end PlainScan

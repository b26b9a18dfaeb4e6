import PlainScan.Scan.Run

namespace PlainScan

/-!
# The stages of a scan one after another

What one stage does to the progress of a scan, and what is left of that when the scan ends.

* `andThen_of_ok`, `andThen_of_error`, `exists_of_andThen_ok` — one stage and the next.
* `receive_keeps`, `obtain_fst`, `ScanProgress.GoesOnAs` — what the stages do;
  `goesOnAs_runStages` — what they do all together.
* `response_scan` — there is a response unless the removal of the working area breaks;
  `cleared_runStages` — which area that is.
* `ScanRun.report?`, `runStages_of_report` — the report, and where it comes from.
-/

variable {σ : Type}

/-! ### Stages -/

/-- After a stage that comes to something the next one follows. -/
theorem andThen_of_ok {α β : Type} {step : ScanProgress σ × Except ScanStop α} {result : α}
    (h : step.2 = .ok result)
    (next : α → ScanProgress σ → ScanProgress σ × Except ScanStop β) :
    andThen step next = next result step.1 := by
  obtain ⟨p, outcome⟩ := step
  obtain rfl : outcome = .ok result := h
  rfl

/-- A stage that stops the scan is the last one. -/
theorem andThen_of_error {α β : Type} {step : ScanProgress σ × Except ScanStop α}
    {stop : ScanStop} (h : step.2 = .error stop)
    (next : α → ScanProgress σ → ScanProgress σ × Except ScanStop β) :
    andThen step next = (step.1, .error stop) := by
  obtain ⟨p, outcome⟩ := step
  obtain rfl : outcome = .error stop := h
  rfl

/-- What stages one after another end with comes from each of them. -/
theorem exists_of_andThen_ok {α β : Type} {step : ScanProgress σ × Except ScanStop α}
    {next : α → ScanProgress σ → ScanProgress σ × Except ScanStop β} {result : β}
    (h : (andThen step next).2 = .ok result) :
    ∃ p middle, step = (p, .ok middle) ∧ (next middle p).2 = .ok result := by
  obtain ⟨p, middle⟩ := step
  cases middle with
  | error stop => cases h
  | ok middle => exact ⟨p, middle, rfl, h⟩

/-- To receive a request changes nothing but the limiter, and what is known of the quota. -/
theorem receive_keeps (s : ScanServices σ) (request : ScanRequest) (p : ScanProgress σ) :
    ∃ limiter quota, (receive s request p).1 = { p with limiter := limiter, quota := quota } := by
  unfold receive
  split
  · split
    · exact ⟨_, _, rfl⟩
    · exact ⟨_, _, rfl⟩
  · split
    · exact ⟨_, _, rfl⟩
    · dsimp only
      split
      · exact ⟨_, _, rfl⟩
      · exact ⟨_, _, rfl⟩

/-- The address that comes of a request is the one that it gives. -/
theorem parse_of_receive {s : ScanServices σ} {request : ScanRequest} {p : ScanProgress σ}
    {url : RepoUrl} (h : (receive s request p).2 = .ok url) :
    RepoUrl.parse request.url = .ok url := by
  unfold receive at h
  split at h
  · split at h <;> cases h
  · rename_i found hparse
    split at h
    · cases h
    · dsimp only at h
      split at h
      · cases h
        exact hparse
      · cases h

/-- The area that an acquisition hands over. -/
def AcquisitionRun.area? (run : AcquisitionRun) : Option FilePath :=
  run.outcome.toOption.map Acquired.location

/-- A scan that has acquired its repository: the stage is entered, the requests are made, the file
    system is as the acquisition leaves it, and an area that is handed over has to be removed. -/
def ScanProgress.acquired (p : ScanProgress σ) (run : AcquisitionRun) : ScanProgress σ :=
  { p.enter .acquiring with
    host := run.host
    requests := p.requests ++ run.requests
    area := run.area?.or p.area }

/-- What an acquisition does, whatever comes of it. -/
theorem obtain_fst (s : ScanServices σ) (mode : ScanMode) (url : RepoUrl) (p : ScanProgress σ) :
    (obtain s mode url p).1 = p.acquired (s.acquire mode url.text p.host) := by
  simp only [obtain, ScanProgress.acquired, AcquisitionRun.area?]
  cases (s.acquire mode url.text p.host).outcome with
  | ok acquired => rfl
  | error stop => cases stop <;> rfl

/-- A scan goes on: stages have been entered, and the model has been asked. -/
def ScanProgress.GoesOnAs (p q : ScanProgress σ) : Prop :=
  ∃ stages asked, q = { p with stages := p.stages ++ stages, asked := p.asked ++ asked }

theorem ScanProgress.GoesOnAs.trans {p q r : ScanProgress σ} (hpq : p.GoesOnAs q)
    (hqr : q.GoesOnAs r) : p.GoesOnAs r := by
  obtain ⟨stages, asked, rfl⟩ := hpq
  obtain ⟨more, further, rfl⟩ := hqr
  exact ⟨stages ++ more, asked ++ further, by simp only [List.append_assoc]⟩

/-- It goes on through one stage after another. -/
theorem goesOnAs_andThen {α β : Type} {p : ScanProgress σ}
    {step : ScanProgress σ × Except ScanStop α}
    {next : α → ScanProgress σ → ScanProgress σ × Except ScanStop β} (hstep : p.GoesOnAs step.1)
    (hnext : ∀ result (q : ScanProgress σ), q.GoesOnAs (next result q).1) :
    p.GoesOnAs (andThen step next).1 :=
  andThen_preserves (P := p.GoesOnAs) hstep fun result q hq => hq.trans (hnext result q)

theorem goesOnAs_analyze (s : ScanServices σ) (acquired : Acquired) (p : ScanProgress σ) :
    p.GoesOnAs (analyze s acquired p).1 := by
  refine ⟨[.analyzing], [], ?_⟩
  simp only [analyze, List.append_nil]
  split <;> rfl

theorem goesOnAs_translate (s : ScanServices σ) (analyses : Panel → Analysis)
    (p : ScanProgress σ) : p.GoesOnAs (translate s analyses p).1 := by
  refine ⟨[.translating], (s.translate fun panel => (analyses panel).findings).asked, ?_⟩
  simp only [translate]
  split <;> rfl

theorem goesOnAs_assemble (s : ScanServices σ) (mode : ScanMode) (url : RepoUrl)
    (acquired : Acquired) (analyses : Panel → Analysis)
    (translations : Panel → Option PanelTranslation) (p : ScanProgress σ) :
    p.GoesOnAs (assemble s mode url acquired analyses translations p).1 := by
  refine ⟨[.assembling], [], ?_⟩
  simp only [assemble, List.append_nil]
  split <;> rfl

/-- **What a scan does.** Once it is received it acquires its repository, and whatever the later
    stages come to, they only go on from there. -/
theorem goesOnAs_runStages {s : ScanServices σ} {request : ScanRequest}
    {p : ScanProgress σ} {url : RepoUrl} (h : (receive s request p).2 = .ok url) :
    ((receive s request p).1.acquired
      (s.acquire request.mode url.text (receive s request p).1.host)).GoesOnAs
        (runStages s request p).1 := by
  rw [runStages, andThen_of_ok h, ← obtain_fst]
  refine goesOnAs_andThen ⟨[], [], by simp only [List.append_nil]⟩ fun acquired p => ?_
  refine goesOnAs_andThen (goesOnAs_analyze s acquired p) fun analyses p => ?_
  exact goesOnAs_andThen (goesOnAs_translate s analyses p) fun translations p =>
    goesOnAs_assemble s request.mode url acquired analyses translations p

/-! ### The end of a scan -/

/-- A scan that goes on still has the same area to remove. -/
theorem ScanProgress.GoesOnAs.cleared_eq {p q : ScanProgress σ} (h : p.GoesOnAs q) :
    q.cleared = p.cleared := by
  obtain ⟨stages, asked, rfl⟩ := h
  rfl

/-- **Responses.** A scan gives its response unless the removal of its working area breaks. -/
theorem response_scan (s : ScanServices σ) (request : ScanRequest) (limiter : σ) (host : Host) :
    let run := runStages s request { limiter := limiter, host := host }
    (scan s request limiter host).response
      = if run.1.cleared.2 then none else some (responseTo run.2 run.1.quota) := rfl

/-- Every stage that was entered is among the stages in the end. -/
theorem stages_prefix_scan (s : ScanServices σ) (request : ScanRequest) (limiter : σ)
    (host : Host) :
    (runStages s request { limiter := limiter, host := host }).1.stages
      <+: (scan s request limiter host).stages := by
  simp only [scan, conclude]
  split
  · exact List.prefix_rfl
  · exact List.prefix_append _ _

/-- The report in the response of a scan, if there is a response and it has one. -/
def ScanRun.report? (run : ScanRun σ) : Option ScanReport := run.response.bind ScanResponse.report

/-- There is a report only if all stages come to their end. -/
theorem runStages_of_report {s : ScanServices σ} {request : ScanRequest} {limiter : σ}
    {host : Host} {report : ScanReport} (h : (scan s request limiter host).report? = some report) :
    (runStages s request { limiter := limiter, host := host }).2 = .ok report := by
  rw [ScanRun.report?, response_scan] at h
  split at h
  · cases h
  · cases hstages : (runStages s request { limiter := limiter, host := host }).2 with
    | error stop =>
      rw [hstages] at h
      cases stop <;> cases h
    | ok found =>
      rw [hstages] at h
      obtain rfl : found = report := Option.some.inj h
      rfl

/-- **The area.** A scan that is received removes in the end what its acquisition handed over. -/
theorem cleared_runStages {s : ScanServices σ} {request : ScanRequest} {limiter : σ} {host : Host}
    {url : RepoUrl} (h : (receive s request { limiter := limiter, host := host }).2 = .ok url) :
    (runStages s request { limiter := limiter, host := host }).1.cleared
      = match (s.acquire request.mode url.text host).area? with
        | some location => (s.acquire request.mode url.text host).host.closeArea location
        | none => ((s.acquire request.mode url.text host).host, false) := by
  obtain ⟨limiter', quota, hkeeps⟩ := receive_keeps s request { limiter := limiter, host := host }
  rw [(goesOnAs_runStages h).cleared_eq, hkeeps, ScanProgress.cleared, ScanProgress.acquired]
  cases (s.acquire request.mode url.text host).area? <;> rfl

/-- A scan that is not received has nothing to remove. -/
theorem cleared_runStages_of_error {s : ScanServices σ} {request : ScanRequest} {limiter : σ}
    {host : Host} {stop : ScanStop}
    (h : (receive s request { limiter := limiter, host := host }).2 = .error stop) :
    (runStages s request { limiter := limiter, host := host }).1.cleared = (host, false) := by
  obtain ⟨limiter', quota, hkeeps⟩ := receive_keeps s request { limiter := limiter, host := host }
  rw [runStages, andThen_of_error h, hkeeps]
  rfl

end PlainScan

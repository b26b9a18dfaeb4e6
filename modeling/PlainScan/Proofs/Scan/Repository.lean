import PlainScan.Proofs.Acquisition.Requests
import PlainScan.Proofs.Scan.Reported

namespace PlainScan

/-!
# The repository of a scan

A scan reports the repository that it was asked for, and makes its requests while it acquires one.

* `requests_scan` — the requests of a scan are those of the acquisition, if it comes that far.
* `repoUrl_of_report` — the address in a report.
* `scan_repository_iff` — when the repository that is scanned is the one that is reported.
-/

variable {σ : Type}

/-! ### Reports -/

/-- Whatever is put together has the address it was asked for. -/
theorem repoUrl_of_assemble {s : ScanServices σ} {mode : ScanMode} {url : RepoUrl}
    {acquired : Acquired} {analyses : Panel → Analysis}
    {translations : Panel → Option PanelTranslation} {p : ScanProgress σ} {report : ScanReport}
    (h : (assemble s mode url acquired analyses translations p).2 = .ok report) :
    report.repoUrl = url.text := by
  simp only [assemble] at h
  split at h
  · cases h
    rfl
  · cases h

/-! ### The whole scan -/

/-- The requests of a scan that is received are those of the acquisition. -/
theorem requests_scan_of_receive {s : ScanServices σ} {request : ScanRequest} {limiter : σ}
    {host : Host} {url : RepoUrl}
    (h : (receive s request { limiter := limiter, host := host }).2 = .ok url) :
    (scan s request limiter host).requests
      = (s.acquire request.mode url.text host).requests := by
  obtain ⟨limiter', quota, hkeeps⟩ := receive_keeps s request { limiter := limiter, host := host }
  obtain ⟨stages, asked, hrun⟩ := goesOnAs_runStages h
  show (runStages s request { limiter := limiter, host := host }).1.requests = _
  rw [hrun, hkeeps]
  rfl

/-- What a scan comes to that is not received. -/
theorem scan_of_not_received {s : ScanServices σ} {request : ScanRequest} {limiter : σ}
    {host : Host} {stop : ScanStop}
    (h : (receive s request { limiter := limiter, host := host }).2 = .error stop) :
    scan s request limiter host
      = conclude (receive s request { limiter := limiter, host := host }).1 (.error stop) := by
  rw [scan, runStages, andThen_of_error h]

/-- The requests of a scan are those of the acquisition, if it comes that far. -/
theorem requests_scan (s : ScanServices σ) {request : ScanRequest} {url : RepoUrl}
    (h : RepoUrl.parse request.url = .ok url) (limiter : σ) (host : Host) :
    (scan s request limiter host).requests = []
      ∨ (scan s request limiter host).requests
        = (s.acquire request.mode url.text host).requests := by
  cases hreceive : (receive s request { limiter := limiter, host := host }).2 with
  | error stop =>
    obtain ⟨limiter', quota, hkeeps⟩ := receive_keeps s request { limiter := limiter, host := host }
    rw [scan_of_not_received hreceive, hkeeps]
    exact .inl rfl
  | ok found =>
    have hfound := parse_of_receive hreceive
    rw [h] at hfound
    obtain rfl : url = found := Except.ok.inj hfound
    exact .inr (requests_scan_of_receive hreceive)

/-- A report has the normal form of the address. -/
theorem repoUrl_of_report {s : ScanServices σ} {request : ScanRequest} {url : RepoUrl}
    (h : RepoUrl.parse request.url = .ok url) {limiter : σ} {host : Host} {report : ScanReport}
    (hreport : (scan s request limiter host).report? = some report) :
    report.repoUrl = url.text := by
  -- all five stages came to their end; the last one writes down what the first one parsed
  obtain ⟨p₁, url', hreceive, hrest⟩ := exists_of_andThen_ok (runStages_of_report hreport)
  obtain ⟨p₂, acquired, -, hrest⟩ := exists_of_andThen_ok hrest
  obtain ⟨p₃, analyses, -, hrest⟩ := exists_of_andThen_ok hrest
  obtain ⟨p₄, translations, -, hlast⟩ := exists_of_andThen_ok hrest
  have hurl := parse_of_receive (congrArg Prod.snd hreceive)
  rw [h] at hurl
  rw [repoUrl_of_assemble hlast, Except.ok.inj hurl]

/-- The requests of an acquisition from a normal form name what that is made of exactly if there are
    none, or its name does not end in `.git` any more. -/
theorem names_acquired_iff {url : RepoUrl} (h : url.Names) (config : Config) (env : Environment)
    (network : Network) (mode : ScanMode) (host : Host) :
    (∀ r ∈ (acquire config env network mode url.text host).requests, r.repository? = some url) ↔
      (acquire config env network mode url.text host).requests = []
        ∨ ¬ RepoUrl.EndsInGit url.repo.toList := by
  rw [← h.parse_text_iff]
  cases hparse : RepoUrl.parse url.text with
  | error e =>
    -- without a repository there is nothing to ask for
    rw [acquire_invalid config env network mode host hparse]
    exact iff_of_true (List.forall_mem_nil _) (.inl rfl)
  | ok found =>
    have hnamed : ∀ r ∈ (acquire config env network mode url.text host).requests,
        r.repository? = some found := fun r hr => repository?_of_mem_acquire hparse hr
    constructor
    · intro hall
      cases hrequests : (acquire config env network mode url.text host).requests with
      | nil => exact .inl rfl
      | cons first more =>
        -- the first request names both
        have hfirst : first ∈ (acquire config env network mode url.text host).requests := by
          rw [hrequests]
          exact List.mem_cons_self
        exact .inr (congrArg Except.ok
          (Option.some.inj ((hnamed first hfirst).symm.trans (hall first hfirst))))
    · rintro (hnone | hsame)
      · rw [hnone]
        exact List.forall_mem_nil _
      · rw [Except.ok.inj hsame] at hnamed
        exact hnamed

/-- **The repository of a scan.** The normal form of an address is parsed as the same address
    exactly if its name does not end in `.git` any more.  A report has the normal form, and exactly
    in that case all requests, if there are any, name the repository that is reported. -/
theorem scan_repository_iff {request : ScanRequest} {url : RepoUrl}
    (h : RepoUrl.parse request.url = .ok url) (config : Config) (s : Surroundings)
    (analyzers : List Analyzer) (quota : Quota) (host : Host) :
    (RepoUrl.parse url.text = .ok url ↔ ¬ RepoUrl.EndsInGit url.repo.toList)
      ∧ (∀ report,
          (scan (.ordinary config s analyzers) request quota host).report? = some report →
            report.repoUrl = url.text)
      ∧ ((∀ r ∈ (scan (.ordinary config s analyzers) request quota host).requests,
            r.repository? = some url) ↔
          (scan (.ordinary config s analyzers) request quota host).requests = []
            ∨ ¬ RepoUrl.EndsInGit url.repo.toList) := by
  have hnames := RepoUrl.names_of_parse h
  refine ⟨hnames.parse_text_iff, fun _ hreport => repoUrl_of_report h hreport, ?_⟩
  rcases requests_scan (.ordinary config s analyzers) h quota host with hnone | hacquire
  · rw [hnone]
    exact iff_of_true (List.forall_mem_nil _) (.inl rfl)
  · rw [hacquire]
    exact names_acquired_iff hnames config s.env s.network request.mode host

/-! ### Endings -/

/-- A request for a repository whose address has an ending. -/
def endedRequest : ScanRequest := ⟨"https://github.com/owner/repo.git/", "1.1.1.1", .fast⟩

/-- The normal form of that address is parsed as the same address, and all requests of a scan name
    the repository. -/
theorem scan_repository_endedRequest :
    RepoUrl.parse endedRequest.url = .ok ⟨"owner", "repo"⟩
      ∧ RepoUrl.parse (RepoUrl.text ⟨"owner", "repo"⟩) = .ok ⟨"owner", "repo"⟩
      ∧ ∀ r ∈ (scan (.ordinary .default (lintSurroundings "")) endedRequest ⟨10, []⟩
          sampleHost).requests, r.repository? = some ⟨"owner", "repo"⟩ := by
  have hparse : RepoUrl.parse endedRequest.url = .ok ⟨"owner", "repo"⟩ := by decide +kernel
  have hends : ¬ RepoUrl.EndsInGit "repo".toList := by decide +kernel
  obtain ⟨hnormal, -, hrequests⟩ :=
    scan_repository_iff hparse .default (lintSurroundings "") Analyzer.all ⟨10, []⟩ sampleHost
  exact ⟨hparse, hnormal.mpr hends, hrequests.mpr (.inr hends)⟩

/-- If a name ends in `.git` twice, its normal form is parsed as another repository, which is the
    one that is acquired, or as none. -/
theorem parse_text_ne_of_two_endings :
    RepoUrl.parse "https://github.com/owner/repo.git.git" = .ok ⟨"owner", "repo.git"⟩
      ∧ RepoUrl.parse (RepoUrl.text ⟨"owner", "repo.git"⟩) = .ok ⟨"owner", "repo"⟩
      ∧ (acquire .default {} (lintSurroundings "").network .fast
          (RepoUrl.text ⟨"owner", "repo.git"⟩) sampleHost).requests.map Request.repository?
            = [some ⟨"owner", "repo"⟩]
      ∧ RepoUrl.parse "https://github.com/owner/..git.git" = .ok ⟨"owner", "..git"⟩
      ∧ RepoUrl.parse (RepoUrl.text ⟨"owner", "..git"⟩) = .error .malformed := by
  decide +kernel

end PlainScan

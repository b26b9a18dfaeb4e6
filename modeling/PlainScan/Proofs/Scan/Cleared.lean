import PlainScan.Proofs.Acquisition.Confinement
import PlainScan.Proofs.Scan.Repository

namespace PlainScan

/-!
# Nothing is left behind

A scan has to remove the working area that the acquisition hands over to it.  Up to that moment the
area is the acquisition's to remove, and from then on every way out of the scan leads past its
removal.  The machine has to be one that can remove it.

* `Assembly`, `Leaving`, `scanWith` — a scan whose report is put together in any way, and in which
  the tools leave anything in the working area.
* `ScanProgress.Owns` — what holds from the hand-over on: the scan knows the area that it has to
  remove, and nothing but its content differs from what was there before.
* `owns_obtain` — the hand-over; `Owns.analyzeLeaving`, `Owns.translate` — the stages after it.
* `scan_leaves_nothing` — after a scan the machine is what it was.
-/

variable {σ : Type}

/-! ### Reports and tools of any kind -/

/-- Puts a report together from what the stages before have come to, or stops the scan. -/
abbrev Assembly : Type :=
  ScanMode → RepoUrl → Acquired → (Panel → Analysis) → (Panel → Option PanelTranslation) →
    Except ScanStop ScanReport

/-- The content that the tools leave in a working area, if they change it. -/
abbrev Leaving : Type := WorkingArea → Option Directory

/-- A machine with other content in a working area. -/
def Host.refill (h : Host) (location : FilePath) (content : Directory) : Host :=
  { h with
    files := h.files.graft location.components.dropLast (location.components.getLastD "")
      (.directory content) }

/-- Asks every analyzer; whatever comes of that, the tools leave something in the area. -/
def analyzeLeaving (leaving : Leaving) (s : ScanServices σ) (acquired : Acquired)
    (p : ScanProgress σ) : ScanProgress σ × Except ScanStop (Panel → Analysis) :=
  let step := analyze s acquired p
  match leaving (p.host.area acquired.location) with
  | some content =>
    ({ step.1 with host := step.1.host.refill acquired.location content }, step.2)
  | none => step

/-- The stages one after another, with tools and an assembly of any kind. -/
def runStagesWith (leaving : Leaving) (assembly : Assembly) (s : ScanServices σ)
    (request : ScanRequest) (p : ScanProgress σ) : ScanProgress σ × Except ScanStop ScanReport :=
  andThen (receive s request p) fun url p =>
  andThen (obtain s request.mode url p) fun acquired p =>
  andThen (analyzeLeaving leaving s acquired p) fun analyses p =>
  andThen (translate s analyses p) fun translations p =>
  (p.enter .assembling, assembly request.mode url acquired analyses translations)

/-- A scan with tools and an assembly of any kind. -/
def scanWith (leaving : Leaving) (assembly : Assembly) (s : ScanServices σ)
    (request : ScanRequest) (limiter : σ) (host : Host) : ScanRun σ :=
  let (p, outcome) := runStagesWith leaving assembly s request { limiter := limiter, host := host }
  conclude p outcome

/-- How the services of a scan put its report together. -/
def ScanServices.assembly (s : ScanServices σ) : Assembly :=
  fun mode url acquired analyses translations =>
    match panels? (s.config.maxFiles mode) acquired.capHit analyses translations with
    | some panels => .ok (reportOf s mode url acquired panels)
    | none => .error .crashed

/-- An ordinary scan is one of these, with tools that leave the area as it is. -/
theorem scan_eq_scanWith (s : ScanServices σ) (request : ScanRequest) (limiter : σ)
    (host : Host) :
    scan s request limiter host = scanWith (fun _ => none) s.assembly s request limiter host := by
  have hassemble : ∀ mode url acquired analyses translations (p : ScanProgress σ),
      assemble s mode url acquired analyses translations p
        = (p.enter .assembling, s.assembly mode url acquired analyses translations) := by
    intro mode url acquired analyses translations p
    simp only [assemble, ScanServices.assembly]
    cases panels? (s.config.maxFiles mode) acquired.capHit analyses translations <;> rfl
  simp only [scan, scanWith, runStages, runStagesWith, analyzeLeaving, hassemble]

/-! ### From the hand-over on -/

/-- A machine with another content of the area still has it where it was. -/
theorem Host.Opens.refill_withArea {h : Host} {location : FilePath} {name : String}
    (ho : h.Opens location name) (content content' : Directory) :
    (h.withArea name content).refill location content' = h.withArea name content' := by
  have hlast : location.components.getLastD "" = name := by simp [ho.components_eq]
  have hinit : location.components.dropLast = h.temporary := by simp [ho.components_eq]
  simp only [refill, withArea, hlast, hinit, ho.vacant.graft_graft]

/-- The scan knows the area that it has to remove, and without that the machine is what it was. -/
def ScanProgress.Owns (p : ScanProgress σ) (location : FilePath) (host : Host) : Prop :=
  p.area = some location
    ∧ ∃ name content, host.Opens location name ∧ p.host = host.withArea name content

/-- In the end the area is removed. -/
theorem ScanProgress.Owns.cleared_eq {p : ScanProgress σ} {location : FilePath} {host : Host}
    (h : p.Owns location host) (hremoves : host.Removes) : p.cleared = (host, false) := by
  obtain ⟨harea, name, content, hopens, hhost⟩ := h
  simp only [ScanProgress.cleared, harea, hhost, hopens.closeArea_withArea content,
    hremoves.afterRemoval_eq, hremoves location]

/-- **The hand-over.** An acquisition over the network hands its area over, or it leaves nothing
    behind. -/
theorem owns_obtain {config : Config} {env : Environment} {network : Network}
    {s : ScanServices σ} (hs : s.acquire = acquire config env network) (mode : ScanMode)
    (url : RepoUrl) {p : ScanProgress σ} (hp : p.area = none) (hremoves : p.host.Removes) :
    (∃ acquired, (obtain s mode url p).2 = .ok acquired
        ∧ (obtain s mode url p).1.Owns acquired.location p.host)
      ∨ ∃ stop, (obtain s mode url p).2 = .error stop
        ∧ (obtain s mode url p).1.cleared = (p.host, false) := by
  simp only [obtain, hs]
  cases houtcome : (acquire config env network mode url.text p.host).outcome with
  | ok acquired =>
    obtain ⟨_, name, content, -, hopens, -, hhost⟩ :=
      exists_withArea_of_acquire config env network mode url.text p.host houtcome
    exact .inl ⟨acquired, rfl, rfl, name, content, hopens, hhost⟩
  | error stop =>
    have hhost := host_acquire_of_removes config env network mode url.text p.host hremoves houtcome
    refine .inr ?_
    cases stop with
    | crashed =>
      refine ⟨.crashed, rfl, ?_⟩
      simp only [ScanProgress.cleared, ScanProgress.enter, hp, hhost]
    | failed e =>
      refine ⟨.refused ⟨e.code, e.message⟩, rfl, ?_⟩
      simp only [ScanProgress.cleared, ScanProgress.enter, hp, hhost]

namespace ScanProgress.Owns

variable {p : ScanProgress σ} {location : FilePath} {host : Host}

/-- To take note of a stage changes nothing. -/
theorem enter (h : p.Owns location host) (stage : ScanStage) : (p.enter stage).Owns location host :=
  h

/-- Whatever the analyzers show, and whatever they leave in the area. -/
theorem analyzeLeaving {acquired : Acquired} (h : p.Owns acquired.location host)
    (leaving : Leaving) (s : ScanServices σ) :
    (analyzeLeaving leaving s acquired p).1.Owns acquired.location host := by
  have hanalyze : (analyze s acquired p).1.Owns acquired.location host := by
    simp only [analyze]
    split
    · exact h.enter .analyzing
    · exact h.enter .analyzing
  obtain ⟨harea, name, content, hopens, hhost⟩ := hanalyze
  unfold PlainScan.analyzeLeaving
  dsimp only
  split
  · rename_i content' _
    refine ⟨harea, name, content', hopens, ?_⟩
    show (analyze s acquired p).1.host.refill acquired.location content' = _
    rw [hhost, hopens.refill_withArea]
  · exact ⟨harea, name, content, hopens, hhost⟩

/-- Whatever the translator does. -/
theorem translate (h : p.Owns location host) (s : ScanServices σ) (analyses : Panel → Analysis) :
    (translate s analyses p).1.Owns location host := by
  simp only [PlainScan.translate]
  split
  · exact h
  · exact h

end ScanProgress.Owns

/-! ### The whole scan -/

/-- With an acquisition over the network, a scan with tools and an assembly of any kind leaves
    nothing behind. -/
theorem host_scanWith {config : Config} {env : Environment} {network : Network}
    {s : ScanServices σ} (hs : s.acquire = acquire config env network) (leaving : Leaving)
    (assembly : Assembly) (request : ScanRequest) (limiter : σ) {host : Host}
    (hremoves : host.Removes) :
    (scanWith leaving assembly s request limiter host).host = host := by
  obtain ⟨limiter', quota, hkeeps⟩ := receive_keeps s request { limiter := limiter, host := host }
  suffices hcleared : (runStagesWith leaving assembly s request
      { limiter := limiter, host := host }).1.cleared = (host, false) from
    congrArg Prod.fst hcleared
  rw [runStagesWith]
  cases hreceive : (receive s request { limiter := limiter, host := host }).2 with
  | error stop =>
    -- a request that is turned away opens no area
    rw [andThen_of_error hreceive, hkeeps]
    rfl
  | ok url =>
    rw [andThen_of_ok hreceive, hkeeps]
    have howns := owns_obtain hs request.mode url
      (rfl : ({ limiter := limiter', host := host, quota := quota } : ScanProgress σ).area = none)
      hremoves
    rcases howns with ⟨acquired, hok, howns⟩ | ⟨stop, hstop, hcleared⟩
    · -- every later stage leaves the area to the scan
      rw [andThen_of_ok hok]
      refine ScanProgress.Owns.cleared_eq (andThen_preserves
        (P := fun p => p.Owns acquired.location host) (howns.analyzeLeaving leaving s) ?_) hremoves
      intro analyses p hp
      exact andThen_preserves (P := fun p => p.Owns acquired.location host)
        (hp.translate s analyses) fun translations p hp => hp.enter .assembling
    · rw [andThen_of_error hstop]
      exact hcleared

/-- **Nothing is left behind.** Whatever the limiter, the network, the analyzers, the translator and
    the assembly do, or fail to do, and whatever the tools leave in the working area, after a scan
    the machine is what it was before, if it removes what it is asked to remove.  So it is after an
    acquisition that hands over no area. -/
theorem scan_leaves_nothing (config : Config) (env : Environment) (network : Network)
    (services : ScanServices σ) (leaving : Leaving) (assembly : Assembly) (request : ScanRequest)
    (limiter : σ) {host : Host} (hremoves : host.Removes) :
    let s := { services with acquire := acquire config env network }
    (scan s request limiter host).host = host
      ∧ (scanWith leaving assembly s request limiter host).host = host
      ∧ ∀ mode text stop, (acquire config env network mode text host).outcome = .error stop →
        (acquire config env network mode text host).host = host := by
  intro s
  refine ⟨?_, host_scanWith rfl leaving assembly request limiter hremoves, ?_⟩
  · rw [scan_eq_scanWith]
    exact host_scanWith rfl (fun _ => none) s.assembly request limiter hremoves
  · intro mode text stop
    exact host_acquire_of_removes config env network mode text host hremoves

/-- A machine without files that removes what it is asked to remove. -/
def removingHost : Host := ⟨[("tmp", .directory [])], ["tmp"], fun _ _ => {}⟩

/-- Tools that make a directory in the area leave nothing behind either. -/
theorem scan_leaves_nothing_removingHost :
    removingHost.Removes
      ∧ (scanWith (fun _ => some [("cache", .directory [])]) (lintServices "").assembly
          (lintServices "") sampleRequest ⟨10, []⟩ removingHost).host = removingHost := by
  have hremoves : removingHost.Removes := fun _ _ => rfl
  exact ⟨hremoves, (scan_leaves_nothing .default {} (lintSurroundings "").network (lintServices "")
    (fun _ => some [("cache", .directory [])]) (lintServices "").assembly sampleRequest ⟨10, []⟩
    hremoves).2.1⟩

end PlainScan

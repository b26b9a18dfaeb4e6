import PlainScan.Acquisition.Download
import PlainScan.Acquisition.Listing

namespace PlainScan

/-!
# Acquiring a repository

* `treeRequest` — the one request for the listing of a repository.
* `acquire` — the listing, a fresh working area and the downloads into it.  An area is left
  behind only by an acquisition that succeeds, or where it cannot be removed.
-/

/-- The address of the listing of a repository. -/
def listingUrl (url : RepoUrl) : String :=
  "https://api.github.com/repos/" ++ url.owner ++ "/" ++ url.repo ++ "/git/trees/HEAD?recursive=1"

/-- The request for the listing of a repository. -/
def treeRequest (config : Config) (env : Environment) (url : RepoUrl) : Request :=
  let secret := match env.githubToken with
    | some token => [("Authorization", "Bearer " ++ token)]
    | none => []
  ⟨listingUrl url,
    [("Accept", "application/vnd.github.v3+json"), ("User-Agent", userAgent)] ++ secret,
    config.treeTimeout⟩

/-- The plan for the downloads, from the reply to the first request. -/
def planOf (config : Config) (mode : ScanMode) (reply : TreeReply) :
    Except AcquisitionStop DownloadPlan :=
  match reply.fields with
  | .error stop => .error stop
  | .ok fields =>
    match downloadPlan? config mode fields with
    | some plan => .ok plan
    | none => .error .crashed

/-- Carries a plan out in a fresh working area, which is removed again if that breaks.  It makes no
    difference whether the removal breaks as well. -/
def carryOut (config : Config) (network : Network) (url : RepoUrl) (plan : DownloadPlan)
    (host : Host) : AcquisitionRun :=
  match host.openArea with
  | none => { host := host, outcome := .error .crashed }
  | some (location, opened) =>
    let download : Download := ⟨config, url, location, network, opened.files⟩
    let s := download.all plan.paths { host := opened }
    if s.broken then
      { host := (s.host.closeArea location).1, requests := s.requests, outcome := .error .crashed }
    else
      { host := s.host, requests := s.requests
        outcome := .ok ⟨location, plan.fileCount, s.stored, plan.capHit⟩ }

/-- Acquires the repository that a text names. -/
def acquire (config : Config) (env : Environment) (network : Network) (mode : ScanMode)
    (text : String) (host : Host) : AcquisitionRun :=
  match RepoUrl.parse text with
  | .error e => { host := host, outcome := .error (.failed (.invalidUrl e)) }
  | .ok url =>
    let first := treeRequest config env url
    match planOf config mode network.tree with
    | .error stop => { host := host, requests := [first], outcome := .error stop }
    | .ok plan =>
      let run := carryOut config network url plan host
      { run with requests := first :: run.requests }

theorem acquire_invalid (config : Config) (env : Environment) (network : Network)
    (mode : ScanMode) {text : String} (host : Host) {e : RepoUrlError}
    (h : RepoUrl.parse text = .error e) :
    (acquire config env network mode text host).requests = [] := by
  simp [acquire, h]

end PlainScan

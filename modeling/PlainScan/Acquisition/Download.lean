import PlainScan.Acquisition.Basic
import PlainScan.Config.Basic

namespace PlainScan

/-!
# Downloads

* `fileUrl` — the address of a file.
* `Download.resolve?` — where the path of a file leads; `Download.target?` — where the file goes, if
  that is inside the working area.
* `Download.one`, `Download.all` — one download, and all of them batch by batch.
-/

/-- The name under which requests are made. -/
def userAgent : String := "LumenClew/1.0"

/-- The address of a file of a repository. -/
def fileUrl (url : RepoUrl) (path : String) : String :=
  "https://raw.githubusercontent.com/" ++ url.owner ++ "/" ++ url.repo ++ "/HEAD/" ++ path

/-- What downloads need: the settings, the repository, the working area, the network, and the files
    of the machine with the links that a path may lead through.  Downloads leave those as they
    are. -/
structure Download where
  config : Config
  url : RepoUrl
  location : FilePath
  network : Network
  files : Directory

/-- How far downloads have come: the file system, the requests in order, the number of files that
    were stored, and whether a failure occurred that nobody foresaw. -/
structure DownloadState where
  host : Host
  requests : List Request := []
  stored : Nat := 0
  broken : Bool := false
  deriving Inhabited

namespace Download

/-! ### One file -/

/-- The request for a file. -/
def request (d : Download) (path : String) : Request :=
  ⟨fileUrl d.url path, [("User-Agent", userAgent)], d.config.fileTimeout⟩

/-- Where the path of a file leads from the working area, unless its links lead nowhere. -/
def resolve? (d : Download) (path : String) : Option FilePath :=
  d.files.resolve? d.location (FilePath.parse path)

/-- Where a file goes, unless its path leads out of the working area. -/
def target? (d : Download) (path : String) : Option FilePath :=
  (d.resolve? path).filter fun target => (target.relativeTo? d.location).isSome

/-- Whether a path can be handed to the file system. -/
def isUsable (path : String) : Bool := path.toList.all Text.isNameable

/-- Stores what came back for a file. -/
def store (target : FilePath) (reply : FileReply) (s : DownloadState) : DownloadState :=
  match reply with
  | .answered status content =>
    if status = 200 then
      let (host, stored) := s.host.write target content
      { s with host := host, stored := if stored then s.stored + 1 else s.stored }
    else s
  | .unreachable => s
  | .broken => { s with broken := true }

/-- Downloads a file.  No request is made for one that would leave the working area, nor for one
    whose path cannot be resolved. -/
def one (d : Download) (s : DownloadState) (path : String) : DownloadState :=
  if !isUsable path then { s with broken := true }
  else
    match d.target? path with
    | none => { s with broken := s.broken || (d.resolve? path).isNone }
    | some target =>
      store target (d.network.file path) { s with requests := s.requests ++ [d.request path] }

/-! ### Batches -/

/-- A list in pieces of a size, the last one possibly shorter; pieces without content get
    nowhere. -/
def batches (size : Nat) : List α → List (List α)
  | [] => []
  | item :: rest =>
    if size = 0 then []
    else (item :: rest.take (size - 1)) :: batches size (rest.drop (size - 1))
termination_by items => items.length
decreasing_by
  simp only [List.length_drop, List.length_cons]
  omega

/-- Downloads a batch; all of it is attempted, unless an earlier one broke. -/
def batch (d : Download) (s : DownloadState) (paths : List String) : DownloadState :=
  if s.broken then s else (d.network.completion paths).foldl d.one s

/-- Downloads all files, batch by batch; there is no way to do so in batches of none. -/
def all (d : Download) (paths : List String) (s : DownloadState) : DownloadState :=
  if d.config.downloadBatchSize = 0 then { s with broken := true }
  else (batches d.config.downloadBatchSize paths).foldl d.batch s

theorem flatten_batches {size : Nat} (h : 0 < size) (items : List α) :
    (batches size items).flatten = items := by
  fun_induction batches size items with
  | case1 => rfl
  | case2 => omega
  | case3 item rest hs ih => simp [ih]

end Download

end PlainScan

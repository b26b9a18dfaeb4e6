import PlainScan.Acquisition.Basic
import PlainScan.FileKind

namespace PlainScan

/-!
# Listings of repositories

* `TreeReply.fields` — the object with the listing, or why there is none.
* `ListedFile` — an entry that stands for a file; `listedFiles?` finds them all.
* `DownloadPlan` — the paths to download, in the order of the listing.
-/

/-! ### Replies -/

/-- The object with the listing, or what the reply stops the acquisition with. -/
def TreeReply.fields : TreeReply → Except AcquisitionStop Fields
  | timedOut => .error (.failed .timedOut)
  | unreachable text => .error (.failed (.unreachable text))
  | broken => .error .crashed
  | answered status reason body =>
    if status = 404 then .error (.failed .notFound)
    else if 400 ≤ status then .error (.failed (.refused status reason))
    else
      match body with
      | none => .error (.failed .invalidJson)
      | some (.obj fields) => .ok fields
      | some _ => .error (.failed .unexpectedBody)

/-! ### Entries -/

/-- An entry that stands for a file. -/
structure ListedFile where
  path : Option String
  size : Json
  deriving Inhabited

/-- The file that an entry stands for, if it stands for one.  An entry that is no object, or
    whose path is no text, cannot be handled. -/
def listedFile? : Json → Option (Option ListedFile)
  | .obj fields =>
    if (Fields.get? fields "type").bind Json.str? == some "blob" then
      let size := (Fields.get? fields "size").getD .null
      match Fields.get? fields "path" with
      | none => some (some ⟨none, size⟩)
      | some (.str path) => some (some ⟨some path, size⟩)
      | some _ => none
    else some none
  | _ => none

/-- The entries of a listing; a text or an object without content counts as none. -/
def entriesOf? (fields : Fields) : Option (List Json) :=
  match Fields.get? fields "tree" with
  | none => some []
  | some (.arr items) => some items
  | some (.str text) => if text.isEmpty then some [] else none
  | some (.obj inner) => if inner.isEmpty then some [] else none
  | some _ => none

/-- The files of a listing in order. -/
def listedFiles? (fields : Fields) : Option (List ListedFile) :=
  match (entriesOf? fields).bind fun entries => entries.mapM listedFile? with
  | some files => some (files.filterMap id)
  | none => none

/-! ### Selection -/

/-- Whether a size is within a limit; a size that says nothing is.  What is no number cannot be
    compared. -/
def sizeFits? (limit : Int) (size : Json) : Option Bool :=
  if !size.holds then some true
  else
    match size with
    | .bool _ => some (1 ≤ limit)
    | other => (Number.ofJson? other).map fun n => n.atMostInt limit

/-- Whether a scan takes a file, by its path. -/
def ListedFile.isAllowed (config : Config) (file : ListedFile) : Bool :=
  isWantedPath config (FilePath.parse (file.path.getD ""))

/-- The files that pass the test of their size. -/
def fitting? (limit : Int) : List ListedFile → Option (List ListedFile)
  | [] => some []
  | file :: rest =>
    match sizeFits? limit file.size, fitting? limit rest with
    | some fits, some more => some (if fits then file :: more else more)
    | _, _ => none

/-- The files of a listing that a scan may take, in order. -/
def eligible? (config : Config) (files : List ListedFile) : Option (List ListedFile) :=
  config.maxFileBytes?.bind fun limit =>
    fitting? limit (files.filter fun file => file.isAllowed config)

/-- The number of files in the repository, the paths to download, and whether more files than
    those might have been taken. -/
structure DownloadPlan where
  fileCount : Nat
  paths : List String
  capHit : Bool
  deriving DecidableEq, Repr, Inhabited

/-- The plan for a listing: the first of the eligible files, as many as the mode allows.  Each of
    them needs a path. -/
def downloadPlan? (config : Config) (mode : ScanMode) (fields : Fields) : Option DownloadPlan := do
  let files ← listedFiles? fields
  let eligible ← eligible? config files
  let limit := config.maxFiles mode
  let paths ← (eligible.take limit).mapM ListedFile.path
  return ⟨files.length, paths, limit < eligible.length⟩

end PlainScan

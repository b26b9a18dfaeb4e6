import PlainScan.Config.Basic
import PlainScan.FilePath
import PlainScan.Severity
import PlainScan.Text.Pieces

namespace PlainScan

/-!
# Kinds of files

What the path of a file tells about it.

* `isEnvName` — names of environment files.
* `isWantedPath` — the files of a repository that a scan takes.
* `isScannedName` — the files that are searched for secrets.
* `contextSeverity` — the severity of a secret, given the file it stands in.
-/

/-! ### Names -/

/-- The name of an environment file, in lower case, with anything after a further dot. -/
def isEnvName (lowerName : String) : Bool :=
  lowerName == ".env" || Text.startsWith ".env.".toList lowerName.toList

/-- Whether a name contains one of the markers. -/
def hasMarker (markers : List String) (lowerName : String) : Bool :=
  markers.any fun marker => Text.contains marker.toList lowerName.toList

/-! ### Selection -/

/-- Whether no directory above a file is ignored. -/
def outsideIgnored (ignored : List String) (path : FilePath) : Bool :=
  !path.directories.any fun part => ignored.contains part

/-- Whether a scan takes a file of the repository: no directory above it is ignored, and it is an
    environment file or has an allowed ending. -/
def isWantedPath (config : Config) (path : FilePath) : Bool :=
  outsideIgnored config.ignoredDirectories path
    && (isEnvName path.lowerName || config.allowedFileTypes.contains path.lowerSuffix)

/-- Whether a file is searched for secrets: an environment file, a file without an ending, or one
    with an allowed ending. -/
def isScannedName (config : Config) (path : FilePath) : Bool :=
  isEnvName path.lowerName || path.suffix.isEmpty
    || config.allowedFileTypes.contains path.lowerSuffix

/-! ### Severity in context -/

/-- Marks of files that hold examples. -/
def sampleMarks : List String := [".example", ".sample", ".template"]

/-- Directories that hold tests. -/
def testDirectories : List String :=
  ["test", "tests", "__tests__", "spec", "specs", "__mocks__", "fixtures"]

/-- Marks of files that hold tests. -/
def testMarkers : List String := [".test.", ".spec."]

/-- Whether a file belongs to the tests. -/
def isAmongTests (path : FilePath) : Bool :=
  (path.directories.any fun part => testDirectories.contains (Text.lowerString part))
    || hasMarker testMarkers path.lowerName

/-- The severity of a secret in a file: low in examples, critical in environment files, at most
    medium in tests. -/
def contextSeverity (base : Severity) (path : FilePath) : Severity :=
  if hasMarker sampleMarks path.lowerName then .low
  else if isEnvName path.lowerName then .critical
  else if isAmongTests path then base.atMost .medium
  else base

end PlainScan

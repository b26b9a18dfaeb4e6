import PlainScan.Number.Basic

namespace PlainScan

/-!
# Settings

* `Config` — every setting, with its default.
* `ScanMode` — fast or full, which differ in the number of files.
* `Config.maxFiles`, `Config.maxFileBytes?` — the limits on a scan.
* `Environment` — the secrets that come from outside the settings.
-/

/-- How many files a scan may take. -/
inductive ScanMode where
  | fast
  | full
  deriving DecidableEq, Repr, Inhabited

namespace ScanMode

/-- The word for a mode. -/
def name : ScanMode → String
  | fast => "fast"
  | full => "full"

/-- All modes. -/
def all : List ScanMode := [fast, full]

/-- The mode that a word stands for. -/
def ofName? (text : String) : Option ScanMode := all.find? fun m => m.name == text

end ScanMode

/-- A number of seconds, or of mebibytes, given by an integer. -/
def wholeSetting (n : Int) : Number := .real (.ofInt n)

/-- The settings of a scan. -/
structure Config where
  maxFindingsPerPanel : Nat := 25
  fastMaxFiles : Nat := 300
  fullMaxFiles : Nat := 999999
  maxFileSizeMb : Number := wholeSetting 1
  ignoredDirectories : List String :=
    ["node_modules", ".git", "dist", "build", "coverage", "vendor", ".next"]
  allowedFileTypes : List String :=
    [".js", ".jsx", ".ts", ".tsx", ".mjs", ".cjs", ".json", ".html", ".htm", ".vue", ".svelte",
      ".css", ".md", ".yml", ".yaml", ".env", ".config"]
  downloadBatchSize : Nat := 10
  treeTimeout : Number := wholeSetting 30
  fileTimeout : Number := wholeSetting 10
  lintTimeout : Number := wholeSetting 60
  auditTimeout : Number := wholeSetting 60
  secretsTimeout : Number := wholeSetting 30
  accessibilityTimeout : Number := wholeSetting 20
  translationTimeout : Number := wholeSetting 45
  model : String := "claude-sonnet-4-5-20250929"
  maxTokens : Nat := 4096
  maxScansPerDay : Nat := 10
  lintCommand : List String :=
    ["npx", "--no-install", "eslint", ".", "--format", "json", "--no-ignore"]
  auditCommand : List String := ["npm", "audit", "--json"]
  deriving Inhabited

namespace Config

/-- The settings where nothing is set. -/
def default : Config := {}

/-- The number of files that a scan may take. -/
def maxFiles (config : Config) : ScanMode → Nat
  | .fast => config.fastMaxFiles
  | .full => config.fullMaxFiles

/-- The size in bytes above which a file is left out. -/
def maxFileBytes? (config : Config) : Option Int := config.maxFileSizeMb.floorBytes?

end Config

/-- The secrets that the surroundings supply; an empty one counts as absent. -/
structure Environment where
  apiKey : Option String := none
  githubToken : Option String := none
  deriving Inhabited

namespace Environment

/-- A value that is absent when it is empty. -/
def nonEmpty (value : Option String) : Option String := value.filter fun s => !s.isEmpty

/-- The surroundings that supply the given values. -/
def ofValues (apiKey githubToken : Option String) : Environment :=
  ⟨nonEmpty apiKey, nonEmpty githubToken⟩

end Environment

end PlainScan

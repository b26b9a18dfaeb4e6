import PlainScan.Analysis.Basic
import PlainScan.FileKind
import PlainScan.Pattern.Build
import PlainScan.Text.Lines

namespace PlainScan.Secrets

/-!
# Secrets

Searches the lines of files for keys, passwords in addresses, and tokens.

* `SecretPattern` — what a kind of secret looks like; `patterns` lists them in order.
* `lineHits` — the patterns found in a line, with their columns.
* `contentFindings` — the findings in the text of a file.
* `analyze` — the outcome for a working area.
-/

open Pattern

/-- The search fills the panel on secrets. -/
def info : AnalyzerInfo := ⟨"secrets_regex", .secrets⟩

/-! ### Patterns -/

/-- What a kind of secret looks like. -/
structure SecretPattern where
  id : String
  name : String
  severity : Severity
  pattern : Pattern
  deriving Inhabited

/-- Letters, digits, the underscore and the hyphen. -/
def isTokenChar (c : Char) : Bool := c.isAlphanum || c == '_' || c == '-'

/-- The characters of a token when case is ignored. -/
def isTokenCharAnyCase (c : Char) : Bool := isTokenChar c || isLetterAnyCase c

/-- A user name, a colon, a password and the sign before the host. -/
def credentials : Pattern :=
  all [run (fun c => c != ':' && !Text.isBlank c) 1, literal ":",
    run (fun c => c != '@' && !Text.isBlank c) 1, literal "@"]

/-- A key with a value in quotes: the key may be quoted too, a colon or an equals sign
    follows. -/
def quotedSetting (key : Pattern) : Pattern :=
  all [opt quoteMark, key, opt quoteMark, blanks, one (oneOf ":="), blanks, quoteMark,
    run isTokenCharAnyCase 20, quoteMark]

/-- The start of a private key. -/
def privateKey : Pattern :=
  all [literal "-----BEGIN ",
    opt (any [literal "RSA ", literal "EC ", literal "DSA ", literal "OPENSSH ", literal "PGP "]),
    literal "PRIVATE KEY-----"]

/-- The key of a cloud account. -/
def cloudKey : Pattern :=
  all [literal "AKIA", exactly 16 fun c => c.isDigit || c.isUpper]

/-- The word for a bearer and a token. -/
def bearerToken : Pattern :=
  all [opt quoteMark, literal "Bearer", run Text.isBlank 1,
    run (fun c => isTokenChar c || c == '.') 20, opt quoteMark]

/-- All kinds of secrets, in the order in which a line is searched for them. -/
def patterns : List SecretPattern :=
  [⟨"private_key", "Private Key", .critical, privateKey⟩,
    ⟨"aws_key", "AWS Access Key", .critical, cloudKey⟩,
    ⟨"db_connection_mongo", "MongoDB Connection String", .high,
      all [literal "mongodb", opt (literal "+srv"), literal "://", credentials]⟩,
    ⟨"db_connection_postgres", "PostgreSQL Connection String", .high,
      all [literal "postgres", opt (literal "ql"), literal "://", credentials]⟩,
    ⟨"db_connection_mysql", "MySQL Connection String", .high,
      all [literal "mysql://", credentials]⟩,
    ⟨"api_key_generic", "Generic API Key", .high,
      quotedSetting (all [literalAnyCase "api", opt (one (oneOf "_-")), literalAnyCase "key"])⟩,
    ⟨"bearer_token", "Bearer Token", .high, bearerToken⟩,
    ⟨"token_generic", "Generic Token", .medium, quotedSetting (literalAnyCase "token")⟩]

/-! ### Files -/

/-- The column of the first match in a line. -/
def SecretPattern.column? (p : SecretPattern) (line : List Char) : Option Nat :=
  (p.pattern.find? line).map fun m => m.start.column

/-- The patterns found in a line, with their columns. -/
def lineHits (line : List Char) : List (SecretPattern × Nat) :=
  patterns.filterMap fun p => (p.column? line).map fun column => (p, column)

/-- The fields that a finding is known by. -/
def identity (path : FilePath) (line : Nat) (p : SecretPattern) : List Json :=
  [.str info.panel.name, .str info.name, .str p.id, .str path.text, .int line]

/-- The finding for a pattern at a place of a file. -/
def finding (path : FilePath) (line : Nat) (p : SecretPattern) (column : Nat) : RawFinding :=
  let severity := contextSeverity p.severity path
  { id := findingId (identity path line p)
    panel := info.panel
    tool := info.name
    severity := severity
    message := .str ("Possible " ++ p.name ++ " detected")
    file := some path.text
    line := .int line
    column := .int column
    metadata :=
      [("patternId", .str p.id), ("patternName", .str p.name),
        ("baseSeverity", .str p.severity.name), ("contextSeverity", .str severity.name)] }

/-- The findings in a line of a file. -/
def lineFindings (path : FilePath) (number : Nat) (line : List Char) : List RawFinding :=
  (lineHits line).map fun (p, column) => finding path number p column

/-- The findings in the lines of a file, counted from `number` on. -/
def linesFindings (path : FilePath) : Nat → List (List Char) → List RawFinding
  | _, [] => []
  | number, line :: rest => lineFindings path number line ++ linesFindings path (number + 1) rest

/-- The findings in the text of a file. -/
def contentFindings (path : FilePath) (text : List Char) : List RawFinding :=
  linesFindings path 1 (Text.splitLines text)

/-! ### Working areas -/

/-- The findings in a file of the working area; a file above the size limit has none.  The limit
    has to be a number of bytes.  A file that the system refuses to read has no findings either, so
    one without content stands for it. -/
def fileFindings (config : Config) (area : WorkingArea) (file : WalkedFile) :
    Except Crash (List RawFinding) :=
  match config.maxFileBytes? with
  | none => .error .malformedData
  | some limit =>
    if limit < file.content.length then .ok []
    else
      let text := Text.normaliseNewlines (Text.decodeLossy file.content)
      let path := area.relative file.path
      identified path.text (contentFindings path text)

/-- The findings in several files in order. -/
def filesFindings (config : Config) (area : WorkingArea) :
    List WalkedFile → Except Crash (List RawFinding)
  | [] => .ok []
  | file :: rest =>
    match fileFindings config area file, filesFindings config area rest with
    | .ok here, .ok more => .ok (here ++ more)
    | .error crash, _ => .error crash
    | _, .error crash => .error crash

/-- The outcome for a working area. -/
def analyze (config : Config) (area : WorkingArea) (deadline : Deadline) :
    Except Crash Analysis :=
  match area.walk? config.ignoredDirectories deadline with
  | none => .ok (info.failed .toolError "Scan directory does not exist")
  | some walk =>
    let files := walk.files.filter fun f => isScannedName config f.path
    match filesFindings config area files with
    | .error crash => .error crash
    | .ok found =>
      let collector := (Collector.mk config.maxFindingsPerPanel [] 0).addAll found
      if walk.timedOut then
        .ok (info.stopped .timeout
          ("Secrets scan timeout after " ++ deadline.timeout.generalText ++ "s") collector
          (some files.length))
      else .ok (info.completed collector (some files.length))

end PlainScan.Secrets

import PlainScan.CommandLine.Arguments
import PlainScan.Config.Basic

namespace PlainScan.CommandLine

/-!
# Commands

* `Page` — the program itself, and its one command; `Page.help` is the help on each.
* `ScanOptions` — what a scan is asked to do.
* `Invocation` — what the arguments ask for; `Invocation.ofArguments` finds out.
* `UsageFault` — an error together with the page it belongs to.
-/

/-! ### Pages -/

/-- The program or its command. -/
inductive Page where
  | program
  | scan
  deriving DecidableEq, Repr, Inhabited

namespace Page

/-- The first line of the help. -/
def usage : Page → String
  | program => "Usage: lumenclew [OPTIONS] COMMAND [ARGS]..."
  | scan => "Usage: lumenclew scan [OPTIONS] REPO_URL"

/-- How the page is called on the command line. -/
def path : Page → String
  | program => "lumenclew"
  | scan => "lumenclew scan"

/-- The lines of the help. -/
def helpLines : Page → List String
  | program =>
    [usage program, "",
      "  Lumen Clew - plain-language static analysis for public GitHub repositories.", "",
      "Options:",
      "  --version  Show the version and exit.",
      "  --help     Show this message and exit.", "",
      "Commands:",
      "  scan  Scan a public GitHub repository and explain the findings."]
  | scan =>
    [usage scan, "",
      "  Scan a public GitHub repository and explain the findings.", "",
      "Options:",
      "  --mode [fast|full]",
      "  --format [table|json]",
      "  -o, --output TEXT      Write JSON report to file.",
      "  --client-ip TEXT       Client identifier used for rate limiting.",
      "  --config PATH          Path to .lumenclew.yml config file.",
      "  -v, --verbose          Enable debug logging.",
      "  --help                 Show this message and exit."]

/-- The help. -/
def help (page : Page) : String := String.join (page.helpLines.map fun line => line ++ "\n")

end Page

/-- An error and the page it belongs to. -/
structure UsageFault where
  page : Page
  error : UsageError
  deriving DecidableEq, Repr, Inhabited

/-- What is written about an error. -/
def UsageFault.text (fault : UsageFault) : String :=
  fault.page.usage ++ "\nTry '" ++ fault.page.path ++ " --help' for help.\n\nError: "
    ++ fault.error.message ++ "\n"

/-! ### Options -/

/-- The options of the program. -/
inductive ProgramKey where
  | version
  | help
  deriving DecidableEq, Repr, Inhabited

/-- The options of the command. -/
inductive ScanKey where
  | mode
  | format
  | output
  | client
  | config
  | verbose
  | help
  deriving DecidableEq, Repr, Inhabited

/-- The names of the program's options. -/
def programOptions : List (OptionSpec ProgramKey) :=
  [⟨.version, ["--version"], false⟩, ⟨.help, ["--help"], false⟩]

/-- The names of the command's options. -/
def scanOptions : List (OptionSpec ScanKey) :=
  [⟨.mode, ["--mode"], true⟩, ⟨.format, ["--format"], true⟩, ⟨.output, ["--output", "-o"], true⟩,
    ⟨.client, ["--client-ip"], true⟩, ⟨.config, ["--config"], true⟩,
    ⟨.verbose, ["--verbose", "-v"], false⟩, ⟨.help, ["--help"], false⟩]

/-- How a report is written. -/
inductive ReportFormat where
  | table
  | json
  deriving DecidableEq, Repr, Inhabited

namespace ReportFormat

/-- The word for a format. -/
def name : ReportFormat → String
  | table => "table"
  | json => "json"

/-- All formats. -/
def all : List ReportFormat := [table, json]

/-- The format that a word stands for. -/
def ofName? (text : String) : Option ReportFormat := all.find? fun f => f.name == text

end ReportFormat

/-- What a scan is asked to do. -/
structure ScanOptions where
  url : String
  mode : ScanMode := .fast
  format : ReportFormat := .table
  output : Option String := none
  client : String := "cli"
  config : Option String := none
  verbose : Bool := false
  deriving DecidableEq, Repr, Inhabited

/-! ### Invocations -/

/-- What the arguments ask for.  Without any arguments the program shows how it is used. -/
inductive Invocation where
  | nothing
  | version
  | help (page : Page)
  | scan (options : ScanOptions)
  deriving DecidableEq, Repr, Inhabited

/-- What is wrong with the value of an option, if it has to be one of a few words or a path. -/
def valueError? (a : Arguments ScanKey) : ScanKey → Option UsageError
  | .mode =>
    (a.value? .mode).bind fun text =>
      if (ScanMode.ofName? text).isSome then none
      else some (.badChoice "--mode" text (ScanMode.all.map ScanMode.name))
  | .format =>
    (a.value? .format).bind fun text =>
      if (ReportFormat.ofName? text).isSome then none
      else some (.badChoice "--format" text (ReportFormat.all.map ReportFormat.name))
  | .config =>
    (a.value? .config).bind fun text =>
      if text.toList.contains '\x00' then some (.unusablePath "--config") else none
  | _ => none

/-- The options of a scan whose values have been checked. -/
def scanOptionsFor (a : Arguments ScanKey) (url : String) : ScanOptions :=
  { url := url
    mode := ((a.value? .mode).bind ScanMode.ofName?).getD .fast
    format := ((a.value? .format).bind ReportFormat.ofName?).getD .table
    output := Environment.nonEmpty (a.value? .output)
    client := (a.value? .client).getD "cli"
    config := a.value? .config
    verbose := a.has .verbose }

/-- What the arguments of the command ask for.  Errors of the form come first, then the help,
    then wrong values in the order in which the options were given, then the other arguments. -/
def scanInvocation (arguments : List String) : Except UsageError Invocation :=
  match readArguments scanOptions true arguments with
  | .error e => .error e
  | .ok a =>
    if a.has .help then .ok (.help .scan)
    else
      match a.keys.findSome? (valueError? a), a.positional with
      | some e, _ => .error e
      | none, [] => .error (.missingArgument "REPO_URL")
      | none, [url] => .ok (.scan (scanOptionsFor a url))
      | none, _ :: extra => .error (.extraArguments extra)

/-- What the options of the program ask for, if any were given; the first one counts. -/
def programInvocation? (a : Arguments ProgramKey) : Option Invocation :=
  a.given.head?.map fun g =>
    match g.key with
    | .version => .version
    | .help => .help .program

/-- The name of the command. -/
def commandName : String := "scan"

/-- What a word that is no command asks for.  It may be an option behind two hyphens. -/
def strayInvocation (name : String) (rest : List String) : Except UsageError Invocation :=
  match readArguments programOptions false (name :: rest) with
  | .error e => .error e
  | .ok a =>
    match programInvocation? a with
    | some invocation => .ok invocation
    | none =>
      .error (.unknownCommand name (Text.closeMatches suggestionLimit name [commandName]))

/-- An error of a page. -/
def onPage (page : Page) : Except UsageError Invocation → Except UsageFault Invocation
  | .ok invocation => .ok invocation
  | .error e => .error ⟨page, e⟩

/-- What the arguments of the program ask for. -/
def Invocation.ofArguments (arguments : List String) : Except UsageFault Invocation :=
  if arguments.isEmpty then .ok .nothing
  else
    match readArguments programOptions false arguments with
    | .error e => .error ⟨.program, e⟩
    | .ok a =>
      match programInvocation? a, a.positional with
      | some invocation, _ => .ok invocation
      | none, [] => .error ⟨.program, .missingCommand⟩
      | none, name :: rest =>
        if name == commandName then onPage .scan (scanInvocation rest)
        else onPage .program (strayInvocation name rest)

end PlainScan.CommandLine

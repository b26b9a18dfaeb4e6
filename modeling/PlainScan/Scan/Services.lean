import PlainScan.Acquisition.Acquire
import PlainScan.Analysis.Analyzer
import PlainScan.Scan.Run

namespace PlainScan

/-!
# The services of an ordinary scan

* `Surroundings` — what a scan meets outside of the program.
* `ScanServices.ordinary` — the daily quota, the acquisition over the network, the analyzers and
  the model.
* `scanSequence` — scans one after another, with one limiter.
-/

/-- What a scan meets outside of the program: secrets, the time, the network, the tools as they
    behave in a working area, and the model. -/
structure Surroundings where
  env : Environment := {}
  now : Instant
  network : Network
  tools : WorkingArea → Tools
  access : ModelAccess
  model : Panel → ModelReply
  scanId : String
  duration : Int := 0

/-- Whether an analyzer waits for a tool that never ends. -/
def Analyzer.waits (area : WorkingArea) (tools : Tools) : Analyzer → Bool
  | lint => tools.lint.isEndless
  | audit => area.hasFile Audit.manifest && tools.audit.isEndless
  | secrets => false
  | accessibility => false

/-- The place of an analyzer in a scan. -/
def Analyzer.slot (config : Config) (tools : WorkingArea → Tools) (a : Analyzer) : AnalyzerSlot :=
  { info := a.info
    timeout := a.timeout config
    answer := fun area =>
      if a.waits area (tools area) then .stillRunning
      else .finished (a.run config area (tools area) (a.timeout config)) }

/-- The translations of all panels, unless one of them crashes. -/
def translatorAnswer (runs : List TranslationRun) : TranslatorAnswer :=
  { asked := runs.filterMap TranslationRun.request
    result :=
      match runs.mapM TranslationRun.result with
      | .ok translations => some fun panel => translations.find? fun t => t.panel == panel
      | .error _ => none }

/-- The services of an ordinary scan with some of the analyzers. -/
def ScanServices.ordinary (config : Config) (s : Surroundings)
    (analyzers : List Analyzer := Analyzer.all) : ScanServices Quota :=
  { config := config
    peek := fun quota client => (quota.peek client s.now).toOption
    check := fun quota client =>
      let (quota, decision) := quota.check client s.now
      (quota, decision.toOption)
    acquire := PlainScan.acquire config s.env s.network
    analyzers := analyzers.map (Analyzer.slot config s.tools)
    translate := fun findings =>
      translatorAnswer (translatePanels config s.access s.model findings)
    scanId := s.scanId
    clonedAt := s.now.text
    duration := s.duration }

/-- Scans one after another, each in surroundings of its own, with one limiter and one file
    system. -/
def scanSequence (config : Config) (analyzers : List Analyzer) (quota : Quota) (host : Host) :
    List (Surroundings × ScanRequest) → List (ScanRun Quota)
  | [] => []
  | (s, request) :: rest =>
    let run := scan (.ordinary config s analyzers) request quota host
    run :: scanSequence config analyzers run.limiter run.host rest

end PlainScan

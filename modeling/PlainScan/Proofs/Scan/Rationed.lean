import PlainScan.Proofs.Quota.Daily
import PlainScan.Proofs.Scan.Repository

namespace PlainScan

/-!
# Scans with a daily quota

Scans one after another share a quota.  Of a scan the quota learns no more than who asked when, and
whether the address was valid; whatever becomes of the scan after that changes nothing.

* `ScanCall`, `scanRuns` — scans at their instants, each with whatever it meets, and their runs.
* `ScanCall.quotaCall` — what a scan asks the quota; `ScanCall.limiter_run` — nothing else does.
* `ScanCall.Acquires`, `ScanCall.IsTurnedAway` — a scan that gets to its repository, and one that
    calls nobody.
* `ScanCall.Fares` — which of the two it is, by the number of valid requests on the day.
* `scanRuns_fares` — it is so for all scans in a row.
* `not_acquiring_on_lastDay` — on the last day the first scan of a client is turned away as well.
-/

/-! ### Scans in a row -/

/-- The services of a scan, with the quota as its limiter. -/
def ScanServices.rationed (s : ScanServices Quota) (now : Instant) : ScanServices Quota :=
  { s with
    peek := fun quota client => (quota.peek client now).toOption
    check := fun quota client =>
      let (quota, decision) := quota.check client now
      (quota, decision.toOption) }

/-- The quota is the limiter of an ordinary scan. -/
theorem ScanServices.rationed_ordinary (config : Config) (s : Surroundings)
    (analyzers : List Analyzer) :
    (ScanServices.ordinary config s analyzers).rationed s.now = .ordinary config s analyzers := rfl

/-- A request at an instant.  Acquisition, analyzers and translator are whatever they are for this
    scan, and may fail or break. -/
structure ScanCall where
  now : Instant
  request : ScanRequest
  services : ScanServices Quota

/-- The scan that is called for. -/
def ScanCall.run (call : ScanCall) (quota : Quota) (host : Host) : ScanRun Quota :=
  scan (call.services.rationed call.now) call.request quota host

/-- Scans one after another, with one quota and one file system. -/
def scanRuns (quota : Quota) (host : Host) : List ScanCall → List (ScanRun Quota)
  | [] => []
  | call :: later =>
    call.run quota host
      :: scanRuns (call.run quota host).limiter (call.run quota host).host later

/-- An ordinary sequence of scans is one of these. -/
theorem scanSequence_eq_scanRuns (config : Config) (analyzers : List Analyzer) (quota : Quota)
    (host : Host) (scans : List (Surroundings × ScanRequest)) :
    scanSequence config analyzers quota host scans
      = scanRuns quota host (scans.map fun (s, request) =>
          ⟨s.now, request, .ordinary config s analyzers⟩) := by
  induction scans generalizing quota host with
  | nil => rfl
  | cons first later ih =>
    obtain ⟨s, request⟩ := first
    rw [scanSequence, List.map_cons, scanRuns, ih]
    rfl

namespace ScanCall

/-- Scans are called for one after another. -/
def InOrder (calls : List ScanCall) : Prop :=
  calls.Pairwise fun first second => first.now.universalTime ≤ second.now.universalTime

/-- How often a client has asked on a day with a valid address. -/
def asksOn (client : String) (day : Nat) (calls : List ScanCall) : Nat :=
  calls.countP fun call =>
    (RepoUrl.parse call.request.url).isOk && call.request.client == client && call.now.day == day

/-! ### What the quota learns -/

/-- What a scan asks the quota: with a valid address for one more scan, with any other one only how
    the client stands. -/
def quotaCall (call : ScanCall) : QuotaCall :=
  match RepoUrl.parse call.request.url with
  | .ok _ => .check call.request.client call.now
  | .error _ => .peek call.request.client call.now

variable {call : ScanCall} {calls : List ScanCall} {quota : Quota} {host : Host} {url : RepoUrl}
  {limit : Int}

theorem quotaCall_of_valid (h : RepoUrl.parse call.request.url = .ok url) :
    call.quotaCall = .check call.request.client call.now := by
  rw [quotaCall, h]

theorem quotaCall_of_invalid {e : RepoUrlError} (h : RepoUrl.parse call.request.url = .error e) :
    call.quotaCall = .peek call.request.client call.now := by
  rw [quotaCall, h]

@[simp] theorem now_quotaCall (call : ScanCall) : call.quotaCall.now = call.now := by
  unfold quotaCall
  split <;> rfl

/-- To ask with a valid address is to check. -/
theorem checksOn_quotaCall (client : String) (day : Nat) (calls : List ScanCall) :
    QuotaCall.checksOn client day (calls.map quotaCall) = asksOn client day calls := by
  rw [QuotaCall.checksOn, asksOn, List.countP_map]
  congr 1
  funext call
  rw [Function.comp_apply, now_quotaCall]
  cases hparse : RepoUrl.parse call.request.url with
  | error e => rw [quotaCall_of_invalid hparse]; rfl
  | ok url => rw [quotaCall_of_valid hparse]; rfl

/-- Calls in order are a timeline for the quota. -/
theorem timeline (hutc : ∀ call ∈ calls, call.now.IsUtc) (hordered : InOrder calls) :
    QuotaCall.Timeline (calls.map quotaCall) where
  readings := by
    intro c hc
    obtain ⟨call, hcall, rfl⟩ := List.mem_map.mp hc
    rw [now_quotaCall]
    exact (hutc call hcall).isReading
  ordered := by
    rw [QuotaCall.InOrder, List.pairwise_map]
    simp only [now_quotaCall]
    exact hordered

/-! ### The quota of one scan -/

/-- With a valid address the quota is checked, and its answer decides. -/
theorem receive_of_valid (h : RepoUrl.parse call.request.url = .ok url)
    (p : ScanProgress Quota) :
    (receive (call.services.rationed call.now) call.request p).1.limiter
        = (p.limiter.check call.request.client call.now).1
      ∧ (receive (call.services.rationed call.now) call.request p).2
        = match (p.limiter.check call.request.client call.now).2 with
          | .error _ => .error .crashed
          | .ok decision =>
            if decision.allowed then .ok url
            else .error (.refused (quotaError decision.state)) := by
  simp only [receive, h, ScanServices.rationed]
  obtain ⟨limiter, answer⟩ := p.limiter.check call.request.client call.now
  cases answer with
  | error fault => exact ⟨rfl, rfl⟩
  | ok decision =>
    obtain ⟨allowed, state⟩ := decision
    cases allowed <;> exact ⟨rfl, rfl⟩

/-- With any other address the quota stays as it is, and the scan is over. -/
theorem receive_of_invalid {e : RepoUrlError} (h : RepoUrl.parse call.request.url = .error e)
    (p : ScanProgress Quota) :
    (receive (call.services.rationed call.now) call.request p).1.limiter = p.limiter
      ∧ ∃ stop, (receive (call.services.rationed call.now) call.request p).2 = .error stop := by
  simp only [receive, h]
  split
  · exact ⟨rfl, _, rfl⟩
  · exact ⟨rfl, _, rfl⟩

/-- To receive a request leaves the quota as the one question leaves it. -/
theorem limiter_receive (call : ScanCall) (p : ScanProgress Quota) :
    (receive (call.services.rationed call.now) call.request p).1.limiter
      = (p.limiter.ask call.quotaCall).1 := by
  cases hparse : RepoUrl.parse call.request.url with
  | error e =>
    rw [(receive_of_invalid hparse p).1, quotaCall_of_invalid hparse]
    rfl
  | ok url =>
    rw [(receive_of_valid hparse p).1, quotaCall_of_valid hparse]
    rfl

/-- **One question.** A scan leaves the quota as its one question leaves it, whatever becomes of the
    scan. -/
theorem limiter_run (call : ScanCall) (quota : Quota) (host : Host) :
    (call.run quota host).limiter = (quota.ask call.quotaCall).1 := by
  show (runStages (call.services.rationed call.now) call.request
    { limiter := quota, host := host }).1.limiter = _
  cases hreceive : (receive (call.services.rationed call.now) call.request
      { limiter := quota, host := host }).2 with
  | error stop => rw [runStages, andThen_of_error hreceive, limiter_receive]
  | ok url =>
    -- what comes after the request leaves the limiter alone
    obtain ⟨stages, asked, hrun⟩ := goesOnAs_runStages hreceive
    rw [hrun]
    exact limiter_receive call { limiter := quota, host := host }

/-- **The quota in a row.** Each scan finds the quota as the questions of those before it leave
    it. -/
theorem getElem?_scanRuns (quota : Quota) (host : Host) (calls : List ScanCall) (i : Nat) :
    ∃ host', (scanRuns quota host calls)[i]?
      = calls[i]?.map fun call => call.run (quota.after ((calls.take i).map quotaCall)) host' := by
  induction calls generalizing quota host i with
  | nil => exact ⟨host, rfl⟩
  | cons call later ih =>
    cases i with
    | zero => exact ⟨host, rfl⟩
    | succ i =>
      obtain ⟨host', hlater⟩ := ih (call.run quota host).limiter (call.run quota host).host i
      refine ⟨host', ?_⟩
      rw [limiter_run] at hlater
      rw [scanRuns, List.getElem?_cons_succ, List.getElem?_cons_succ, limiter_run, hlater,
        List.take_succ_cons, List.map_cons, Quota.after_cons]

/-! ### Two ways for a scan to go -/

/-- A scan gets to its repository: it enters that stage, and its requests are those of the
    acquisition. -/
structure Acquires (call : ScanCall) (url : RepoUrl) (quota : Quota) (host : Host) : Prop where
  acquiring_mem : .acquiring ∈ (call.run quota host).stages
  requests_eq : (call.run quota host).requests
    = (call.services.acquire call.request.mode url.text host).requests

/-- A scan calls nobody: it ends without having entered a stage, has asked for nothing, and would be
    the same with any other acquisition, analyzers and translator. -/
structure IsTurnedAway (call : ScanCall) (quota : Quota) (host : Host) : Prop where
  stages_eq : (call.run quota host).stages = [.done]
  requests_eq : (call.run quota host).requests = []
  asked_eq : (call.run quota host).asked = []
  host_eq : (call.run quota host).host = host
  run_eq : ∀ services, { call with services := services }.run quota host = call.run quota host

/-- A scan that is received gets to its repository. -/
theorem acquires_of_receive
    (h : (receive (call.services.rationed call.now) call.request
      { limiter := quota, host := host }).2 = .ok url) : call.Acquires url quota host where
  acquiring_mem := by
    obtain ⟨stages, asked, hrun⟩ := goesOnAs_runStages h
    -- the stage is entered, and a stage that has been entered stays among the stages
    refine (stages_prefix_scan _ _ _ _).subset ?_
    rw [hrun]
    simp [ScanProgress.acquired, ScanProgress.enter]
  requests_eq := requests_scan_of_receive h

/-- A scan that is not received calls nobody. -/
theorem isTurnedAway_of_receive {stop : ScanStop}
    (h : (receive (call.services.rationed call.now) call.request
      { limiter := quota, host := host }).2 = .error stop) : call.IsTurnedAway quota host := by
  obtain ⟨limiter, state, hkeeps⟩ := receive_keeps (call.services.rationed call.now) call.request
    { limiter := quota, host := host }
  have hrun : call.run quota host
      = conclude { limiter := limiter, host := host, quota := state } (.error stop) := by
    rw [run, scan_of_not_received h, hkeeps]
  refine ⟨by rw [hrun]; rfl, by rw [hrun]; rfl, by rw [hrun]; rfl, by rw [hrun]; rfl, ?_⟩
  -- what is received depends on the quota and the request alone
  intro services
  have hother : (receive (services.rationed call.now) call.request
      { limiter := quota, host := host }).2 = .error stop := h
  rw [run, scan_of_not_received hother, run, scan_of_not_received h]
  rfl

/-! ### Which way it is -/

/-- How a scan fares with a limit: `asks` is the number of times that its client has asked with a
    valid address on that day so far, this time included. -/
structure Fares (call : ScanCall) (limit : Int) (asks : Nat) (quota : Quota) (host : Host) :
    Prop where
  within : ∀ url, RepoUrl.parse call.request.url = .ok url →
    call.now.day < CalendarDate.lastDay → asks ≤ limit → call.Acquires url quota host
  beyond : ∀ url, RepoUrl.parse call.request.url = .ok url →
    call.now.day < CalendarDate.lastDay → limit < asks →
      call.IsTurnedAway quota host
        ∧ ((call.run quota host).response.bind ScanResponse.error).map ScanError.code
          = some .rateLimitExceeded
  on_lastDay : CalendarDate.lastDay ≤ call.now.day → call.IsTurnedAway quota host
  invalid : ∀ e, RepoUrl.parse call.request.url = .error e →
    call.IsTurnedAway quota host ∧ (call.run quota host).limiter = quota

/-- If the quota allows one more scan, the repository is acquired. -/
theorem acquires_of_allowed (h : RepoUrl.parse call.request.url = .ok url) {state : QuotaState}
    (hallowed : (quota.check call.request.client call.now).2 = .ok ⟨true, state⟩) :
    call.Acquires url quota host := by
  apply acquires_of_receive
  rw [(receive_of_valid h _).2, hallowed]
  rfl

/-- If the quota refuses, the client is told so. -/
theorem isTurnedAway_of_refused (h : RepoUrl.parse call.request.url = .ok url)
    {state : QuotaState}
    (hrefused : (quota.check call.request.client call.now).2 = .ok ⟨false, state⟩) :
    call.IsTurnedAway quota host
      ∧ ((call.run quota host).response.bind ScanResponse.error).map ScanError.code
          = some .rateLimitExceeded := by
  have hreceive : (receive (call.services.rationed call.now) call.request
      { limiter := quota, host := host }).2 = .error (.refused (quotaError state)) := by
    rw [(receive_of_valid h _).2, hrefused]
    rfl
  refine ⟨isTurnedAway_of_receive hreceive, ?_⟩
  obtain ⟨limiter, known, hkeeps⟩ := receive_keeps (call.services.rationed call.now) call.request
    { limiter := quota, host := host }
  rw [run, scan_of_not_received hreceive, hkeeps]
  rfl

/-- If the quota fails, so does the scan. -/
theorem isTurnedAway_of_fault (h : RepoUrl.parse call.request.url = .ok url) {fault : ClockFault}
    (hfault : (quota.check call.request.client call.now).2 = .error fault) :
    call.IsTurnedAway quota host := by
  have hreceive : (receive (call.services.rationed call.now) call.request
      { limiter := quota, host := host }).2 = .error .crashed := by
    rw [(receive_of_valid h _).2, hfault]
  exact isTurnedAway_of_receive hreceive

/-- A scan with an address that is not valid calls nobody and costs nothing. -/
theorem isTurnedAway_of_invalid {e : RepoUrlError}
    (h : RepoUrl.parse call.request.url = .error e) :
    call.IsTurnedAway quota host ∧ (call.run quota host).limiter = quota := by
  obtain ⟨-, stop, hstop⟩ := receive_of_invalid h { limiter := quota, host := host }
  refine ⟨isTurnedAway_of_receive hstop, ?_⟩
  rw [limiter_run, quotaCall_of_invalid h]
  rfl

/-- **One scan.** If the quota counts how often everybody has asked today, the scan fares
    accordingly. -/
theorem fares_of_counts {earlier : List ScanCall} (host : Host) (hlimit : 1 ≤ quota.limit)
    (hq : quota.Sound) (hutc : call.now.IsUtc)
    (hcounts : call.now.day < CalendarDate.lastDay →
      quota.Counts (earlier.map quotaCall) call.now) :
    call.Fares quota.limit (asksOn call.request.client call.now.day (earlier ++ [call])) quota
      host := by
  -- a valid request is one more check of its client on that day
  have hchecked : ∀ url, RepoUrl.parse call.request.url = .ok url →
      asksOn call.request.client call.now.day (earlier ++ [call])
        = asksOn call.request.client call.now.day earlier + 1 := by
    intro url hparse
    simp [asksOn, List.countP_append, hparse, Except.isOk, Except.toBool]
  have hanswer : ∀ url, RepoUrl.parse call.request.url = .ok url →
      call.now.day < CalendarDate.lastDay →
      ∃ state, (quota.check call.request.client call.now).2
        = .ok ⟨decide ((asksOn call.request.client call.now.day (earlier ++ [call]) : Int)
            ≤ quota.limit), state⟩ := by
    intro url hparse hday
    have hspec := ((hcounts hday).check_spec hq (hutc.isUniversal hday) hlimit
      call.request.client).2
    rw [checksOn_quotaCall, ← hchecked url hparse] at hspec
    exact ⟨_, hspec⟩
  refine ⟨?_, ?_, ?_, fun e h => isTurnedAway_of_invalid h⟩
  · intro url hparse hday hwithin
    obtain ⟨state, hstate⟩ := hanswer url hparse hday
    rw [decide_eq_true hwithin] at hstate
    exact acquires_of_allowed hparse hstate
  · intro url hparse hday hbeyond
    obtain ⟨state, hstate⟩ := hanswer url hparse hday
    rw [decide_eq_false (Int.not_le.mpr hbeyond)] at hstate
    exact isTurnedAway_of_refused hparse hstate
  · intro hday
    cases hparse : RepoUrl.parse call.request.url with
    | error e => exact (isTurnedAway_of_invalid hparse).1
    | ok url =>
      -- there is no midnight for the quota to wait for
      have hmidnight := (Instant.nextMidnight?_eq_none_iff call.now).mpr hday
      have hfault : (quota.check call.request.client call.now).2 = .error .noNextDay := by
        rw [hq.check_of_lastDay hutc.isReading.aware hmidnight]
      exact isTurnedAway_of_fault hparse hfault

end ScanCall

open ScanCall (InOrder asksOn)

/-- **Scans with a daily quota.** By a clock of universal time that is never put back, and whatever
    becomes of the scans: those get to their repository that are among the first ones of their
    client on that day with a valid address, as many as the limit says.  All others call nobody, and
    those with an address that is not valid leave the quota as it is.  On the last day there is,
    which no midnight ends, no scan gets to its repository. -/
theorem scanRuns_fares {limit : Int} (hlimit : 1 ≤ limit) (host : Host) {calls : List ScanCall}
    (hutc : ∀ call ∈ calls, call.now.IsUtc) (hordered : InOrder calls) {i : Nat}
    (hi : i < calls.length) :
    ∃ quota host', (scanRuns (.fresh limit) host calls)[i]? = some (calls[i].run quota host')
      ∧ calls[i].Fares limit
          (asksOn calls[i].request.client calls[i].now.day (calls.take (i + 1))) quota host' := by
  obtain ⟨host', hrun⟩ := ScanCall.getElem?_scanRuns (.fresh limit) host calls i
  rw [List.getElem?_eq_getElem hi, Option.map_some] at hrun
  refine ⟨_, host', hrun, ?_⟩
  have hsplit : calls.take (i + 1) = calls.take i ++ [calls[i]] :=
    List.take_succ_eq_append_getElem hi
  have hcall : calls[i].now.IsUtc := hutc _ (List.getElem_mem hi)
  have hutc' : ∀ call ∈ calls.take i, call.now.IsUtc :=
    fun call hmem => hutc call (List.mem_of_mem_take hmem)
  -- what was asked earlier is in order and not later than this call
  have hbefore : InOrder (calls.take i)
      ∧ ∀ call ∈ calls.take i, call.now.universalTime ≤ calls[i].now.universalTime := by
    have hprefix : InOrder (calls.take (i + 1)) := hordered.sublist (List.take_sublist _ _)
    rw [hsplit] at hprefix
    obtain ⟨hearlier, -, hlast⟩ := List.pairwise_append.mp hprefix
    exact ⟨hearlier, fun call hmem => hlast call hmem _ List.mem_cons_self⟩
  have htimeline := ScanCall.timeline hutc' hbefore.1
  obtain ⟨hsound, hlimit'⟩ := Quota.after_fresh limit htimeline
  -- the counters decide how the scan fares, and on the last day they need not be right
  suffices hcounts : calls[i].now.day < CalendarDate.lastDay →
      ((Quota.fresh limit).after ((calls.take i).map ScanCall.quotaCall)).Counts
        ((calls.take i).map ScanCall.quotaCall) calls[i].now by
    have hfares := ScanCall.fares_of_counts host' (hlimit'.symm ▸ hlimit) hsound hcall hcounts
    rwa [hlimit', ← hsplit] at hfares
  intro hday
  -- before the last day all earlier calls are before it, too
  refine Quota.counts_after hlimit htimeline ?_ (hcall.isUniversal hday) ?_
  · intro c hc
    obtain ⟨call, hmem, rfl⟩ := List.mem_map.mp hc
    rw [ScanCall.now_quotaCall]
    have hle := (hutc' call hmem).day_le hcall (hbefore.2 call hmem)
    exact (hutc' call hmem).isUniversal (Nat.lt_of_le_of_lt hle hday)
  · intro c hc
    obtain ⟨call, hmem, rfl⟩ := List.mem_map.mp hc
    rw [ScanCall.now_quotaCall]
    exact hbefore.2 call hmem

/-! ### A row of scans -/

/-- An ordinary scan of a repository at an instant, or of what is no repository. -/
def sampleCall (url : String) (now : Instant) : ScanCall :=
  ⟨now, ⟨url, "1.1.1.1", .fast⟩, lintServices ""⟩

/-- A client asks for three scans on a day, one of them with an address that is not valid, and for
    one on the next day. -/
def callsOverMidnight : List ScanCall :=
  [sampleCall "https://github.com/owner/repo" ⟨19000, 0, some 0⟩,
    sampleCall "owner/repo" ⟨19000, 1, some 0⟩,
    sampleCall "https://github.com/owner/repo" ⟨19000, 2, some 0⟩,
    sampleCall "https://github.com/owner/repo" ⟨19001, 0, some 0⟩]

/-- With one scan a day the third request is turned away, and the one on the next day is not. -/
theorem scanRuns_fares_overMidnight :
    (1 : Int) ≤ 1 ∧ (∀ call ∈ callsOverMidnight, call.now.IsUtc) ∧ InOrder callsOverMidnight
      ∧ 2 < callsOverMidnight.length ∧ 3 < callsOverMidnight.length
      ∧ (∃ quota host,
          (scanRuns (.fresh 1) sampleHost callsOverMidnight)[2]?
              = some (callsOverMidnight[2].run quota host)
            ∧ callsOverMidnight[2].IsTurnedAway quota host)
      ∧ ∃ quota host,
          (scanRuns (.fresh 1) sampleHost callsOverMidnight)[3]?
              = some (callsOverMidnight[3].run quota host)
            ∧ callsOverMidnight[3].Acquires ⟨"owner", "repo"⟩ quota host := by
  have hutc : ∀ call ∈ callsOverMidnight, call.now.IsUtc := by
    simp only [callsOverMidnight, List.forall_mem_cons]
    decide
  have hordered : InOrder callsOverMidnight := by
    simp only [InOrder, callsOverMidnight, List.pairwise_cons]
    decide
  have hparse : RepoUrl.parse "https://github.com/owner/repo" = .ok ⟨"owner", "repo"⟩ := by
    decide +kernel
  refine ⟨Int.le_refl 1, hutc, hordered, by decide, by decide, ?_, ?_⟩
  · obtain ⟨quota, host, hrun, hfares⟩ :=
      scanRuns_fares (Int.le_refl 1) sampleHost hutc hordered (i := 2) (by decide)
    exact ⟨quota, host, hrun,
      (hfares.beyond _ hparse (by decide) (by decide +kernel)).1⟩
  · obtain ⟨quota, host, hrun, hfares⟩ :=
      scanRuns_fares (Int.le_refl 1) sampleHost hutc hordered (i := 3) (by decide)
    exact ⟨quota, host, hrun, hfares.within _ hparse (by decide) (by decide +kernel)⟩

/-- A client that asks for its first scan at noon on the last day, with a valid address, does not
    get to its repository. -/
theorem not_acquiring_on_lastDay :
    (⟨3652058, 43200000000, some 0⟩ : Instant).IsUtc
      ∧ (sampleCall "https://github.com/owner/repo" ⟨3652058, 43200000000, some 0⟩).now.text
        = "9999-12-31T12:00:00+00:00"
      ∧ asksOn "1.1.1.1" 3652058
          [sampleCall "https://github.com/owner/repo" ⟨3652058, 43200000000, some 0⟩] = 1
      ∧ (scanRuns (.fresh 1) sampleHost
          [sampleCall "https://github.com/owner/repo" ⟨3652058, 43200000000, some 0⟩]).map
            ScanRun.stages = [[.done]] := by
  decide +kernel

end PlainScan

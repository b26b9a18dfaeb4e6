import PlainScan.Proofs.Acquisition.Area
import PlainScan.Proofs.Acquisition.Requests

namespace PlainScan

/-!
# Confinement of downloads

A listing may hold any texts as paths.  Whatever they are, whatever comes back for them and in
whichever order, nothing but the content of the new working area changes, and no file is asked for
whose path leads out of it.

* `Host.LeadsInto` — a path leads to the area or to a place in it.
* `Host.SameBesides` — a machine is what it was, but for a place where there was nothing;
  `Host.AddsArea` — there is an area without links in that place now.
* `Host.AsksInside` — what is asked for and counted leads into the area.
* `Download.Confined` — what one download preserves; `Download.series` — downloads in any order,
  each with answers of its own.
* `acquire_confined` — the same of a whole acquisition.
-/

open PlainScan.Text (Bytes)

namespace Host

/-- The path of a file leads from a working area to the area itself or to a place in it. -/
def LeadsInto (h : Host) (location : FilePath) (path : String) : Prop :=
  ∃ rest, h.files.resolve? location (FilePath.parse path)
    = some ⟨"/", location.components ++ rest⟩

/-- A machine is what it was before, but for what lies in a place where there was nothing. -/
structure SameBesides (h before : Host) (location : FilePath) : Prop where
  fresh : before.files.lookup? location.components = none
  outside : { h with files := h.files.remove location.components } = before

/-- A machine is what it was before, but for a working area in a place where there was nothing.
    Regular files and directories are in it, and paths lead where they led before. -/
structure AddsArea (h before : Host) (location : FilePath) : Prop
    extends h.SameBesides before location where
  content : ∃ content, h.directory? location.components = some content
    ∧ (FileNode.directory content).LinkFree
  resolves : ∀ base path, h.files.resolve? base path = before.files.resolve? base path

/-- None of the requests is for a file whose path leads elsewhere, and the files that are counted
    are among those that were asked for. -/
structure AsksInside (h : Host) (url : RepoUrl) (location : FilePath) (requests : List Request)
    (stored : Nat) : Prop where
  never : ∀ path, ¬ h.LeadsInto location path → ∀ r ∈ requests, r.url ≠ fileUrl url path
  counted : ∃ counted : List String, counted.length = stored
    ∧ (counted.map (fileUrl url)).Sublist (requests.map Request.url)
    ∧ ∀ path ∈ counted, h.LeadsInto location path

/-- Nothing has to be counted. -/
theorem asksInside_of_never {h : Host} {url : RepoUrl} {location : FilePath}
    {requests : List Request}
    (hnever : ∀ path, ¬ h.LeadsInto location path → ∀ r ∈ requests, r.url ≠ fileUrl url path) :
    h.AsksInside url location requests 0 :=
  ⟨hnever, [], rfl, List.nil_sublist _, by simp⟩

/-- A request that is for no file may come before. -/
theorem AsksInside.cons {h : Host} {url : RepoUrl} {location : FilePath} {requests : List Request}
    {stored : Nat} (hinside : h.AsksInside url location requests stored) {r : Request}
    (hr : ∀ path, r.url ≠ fileUrl url path) :
    h.AsksInside url location (r :: requests) stored := by
  obtain ⟨counted, hlength, hsub, hall⟩ := hinside.counted
  refine ⟨fun path hpath => ?_, counted, hlength, hsub.cons _, hall⟩
  rw [List.forall_mem_cons]
  exact ⟨hr path, hinside.never path hpath⟩

theorem Opens.sameBesides {h : Host} {location : FilePath} {name : String}
    (ho : h.Opens location name) (content : Directory) :
    (h.withArea name content).SameBesides h location where
  fresh := ho.lookup?_eq_none
  outside := by
    rw [ho.remove_withArea]
    rfl

theorem Opens.addsArea {h : Host} {location : FilePath} {name : String}
    (ho : h.Opens location name) {content : Directory}
    (hfree : (FileNode.directory content).LinkFree) :
    (h.withArea name content).AddsArea h location where
  toSameBesides := ho.sameBesides content
  content := ⟨content, ho.directory?_withArea content, hfree⟩
  resolves := ho.resolve?_withArea hfree

end Host

/-! ### Addresses -/

/-- Files of different paths have different addresses. -/
theorem fileUrl_injective (url : RepoUrl) : Function.Injective (fileUrl url) := by
  intro path other h
  have hchars := congrArg String.toList h
  simp only [toList_fileUrl, List.append_cancel_left_eq, List.cons.injEq, true_and] at hchars
  exact String.toList_inj.mp hchars

/-- No file has the address of a listing. -/
theorem listingUrl_ne_fileUrl (url : RepoUrl) (path : String) :
    listingUrl url ≠ fileUrl url path := by
  intro h
  have hchars := congrArg String.toList h
  rw [toList_listingUrl, toList_fileUrl] at hchars
  -- the names of the two hosts differ in their first letter
  have hat := congrArg (fun chars => chars[8]?) hchars
  have hlisting : listingRoot.length = 29 := by decide
  have hcontent : contentRoot.length = 34 := by decide
  simp only [List.getElem?_append_left (show 8 < listingRoot.length by omega),
    List.getElem?_append_left (show 8 < contentRoot.length by omega)] at hat
  exact absurd hat (by decide)

namespace Download

variable {d : Download} {h : Host} {name : String}

/-! ### Looking paths up -/

/-- Downloads go into an area that a machine has got, and they look paths up in the files of that
    machine with some content of the area. -/
structure GoesInto (d : Download) (h : Host) (name : String) : Prop where
  opens : h.Opens d.location name
  files : ∃ content, (FileNode.directory content).LinkFree
    ∧ d.files = (h.withArea name content).files

/-- The same downloads with the files as they are by now. -/
def now (d : Download) (s : DownloadState) : Download := { d with files := s.host.files }

/-- A batch in which each path is looked up when it has its turn. -/
def batchNow (d : Download) (s : DownloadState) (paths : List String) : DownloadState :=
  if s.broken then s else (d.network.completion paths).foldl (fun s path => (d.now s).one s path) s

/-- All downloads, each path looked up when it has its turn. -/
def allNow (d : Download) (paths : List String) (s : DownloadState) : DownloadState :=
  if d.config.downloadBatchSize = 0 then { s with broken := true }
  else (batches d.config.downloadBatchSize paths).foldl d.batchNow s

/-- Downloads one after another, each path looked up when it has its turn, and each with answers of
    its own. -/
def series (d : Download) (steps : List (Network × String)) (s : DownloadState) : DownloadState :=
  steps.foldl (fun s step => one { d.now s with network := step.1 } s step.2) s

/-- Downloads begin with an area that has just been made. -/
theorem exists_goesInto (config : Config) (network : Network) (url : RepoUrl) {opened : Host}
    {location : FilePath} (hopen : h.openArea = some (location, opened)) :
    ∃ name, (Download.mk config url location network opened.files).GoesInto h name
      ∧ opened = h.withArea name [] := by
  obtain ⟨name, hopens, rfl⟩ := Host.opens_of_openArea hopen
  exact ⟨name, ⟨hopens, [], Directory.linkFree_nil, rfl⟩, rfl⟩

namespace GoesInto

/-- The area is in no path's way. -/
theorem resolve?_eq (hb : d.GoesInto h name) (path : String) :
    d.resolve? path = h.files.resolve? d.location (FilePath.parse path) := by
  obtain ⟨content, hfree, hfiles⟩ := hb.files
  rw [resolve?, hfiles, hb.opens.resolve?_withArea hfree]

/-- A file goes to where its path leads, if that is in the area. -/
theorem exists_of_target? (hb : d.GoesInto h name) {path : String} {target : FilePath}
    (htarget : d.target? path = some target) :
    ∃ rest, target = ⟨"/", d.location.components ++ rest⟩
      ∧ h.files.resolve? d.location (FilePath.parse path) = some target := by
  obtain ⟨hresolve, hinside⟩ := Option.filter_eq_some_iff.mp htarget
  rw [hb.resolve?_eq] at hresolve
  obtain ⟨names, -, rfl⟩ := Option.map_eq_some_iff.mp hresolve
  rw [FilePath.relativeTo?, Option.isSome_ite, Bool.and_eq_true, List.isPrefixOf_iff_prefix]
    at hinside
  obtain ⟨rest, hrest⟩ := hinside.2
  exact ⟨rest, by rw [hrest], hresolve⟩

end GoesInto

/-! ### What a download preserves -/

/-- What holds at any time while files are downloaded: of the machine only the content of the area
    has changed, and what was asked for and counted leads into it. -/
structure Confined (d : Download) (h : Host) (name : String) (s : DownloadState) : Prop where
  area : ∃ content, (FileNode.directory content).LinkFree ∧ s.host = h.withArea name content
  asked : ∃ asked counted : List String, s.requests = asked.map d.request
    ∧ (∀ path ∈ asked, h.LeadsInto d.location path)
    ∧ counted.Sublist asked ∧ counted.length = s.stored

/-- It holds of an area that is still empty. -/
theorem confined_empty : d.Confined h name { host := h.withArea name [] } where
  area := ⟨[], Directory.linkFree_nil, rfl⟩
  asked := ⟨[], [], rfl, by simp, List.nil_sublist _, rfl⟩

/-- It does not depend on whether something broke. -/
theorem Confined.withBroken {s : DownloadState} (hs : d.Confined h name s) (broken : Bool) :
    d.Confined h name { s with broken := broken } := ⟨hs.area, hs.asked⟩

/-- A request for a path that leads into the area may be made. -/
theorem Confined.ask {s : DownloadState} (hs : d.Confined h name s) {path : String}
    (hpath : h.LeadsInto d.location path) {host : Host} {stored : Nat}
    (harea : ∃ content, (FileNode.directory content).LinkFree ∧ host = h.withArea name content)
    (hstored : stored = s.stored ∨ stored = s.stored + 1) :
    d.Confined h name
      { s with host := host, requests := s.requests ++ [d.request path], stored := stored } := by
  obtain ⟨asked, counted, hrequests, hinside, hsub, hlength⟩ := hs.asked
  have hall : ∀ other ∈ asked ++ [path], h.LeadsInto d.location other := by
    intro other hother
    rcases List.mem_append.mp hother with hold | hnew
    · exact hinside other hold
    · rw [List.mem_singleton.mp hnew]
      exact hpath
  refine ⟨harea, ?_⟩
  rcases hstored with rfl | rfl
  · exact ⟨asked ++ [path], counted, by simp [hrequests], hall,
      hsub.trans (List.sublist_append_left asked [path]), hlength⟩
  · exact ⟨asked ++ [path], counted ++ [path], by simp [hrequests], hall,
      hsub.append (List.Sublist.refl _), by simp [hlength]⟩

/-- Whatever comes back for a file that was asked for. -/
theorem Confined.store (hb : d.GoesInto h name) {s : DownloadState} (hs : d.Confined h name s)
    {path : String} {rest : List String}
    (hresolve : h.files.resolve? d.location (FilePath.parse path)
      = some ⟨"/", d.location.components ++ rest⟩) (reply : FileReply) :
    d.Confined h name (store ⟨"/", d.location.components ++ rest⟩ reply
      { s with requests := s.requests ++ [d.request path] }) := by
  have hpath : h.LeadsInto d.location path := ⟨rest, hresolve⟩
  have hasked := hs.ask hpath hs.area (.inl rfl)
  cases reply with
  | unreachable => exact hasked
  | broken => exact hasked.withBroken true
  | answered status bytes =>
    by_cases hstatus : status = 200
    · -- the file is stored, or at least the attempt is made
      obtain ⟨content, hfree, hhost⟩ := hs.area
      obtain ⟨content', hfree', hwrite⟩ := hb.opens.exists_write hfree rest bytes
      rw [← hhost] at hwrite
      simp only [Download.store, if_pos hstatus]
      refine hs.ask hpath ⟨content', hfree', hwrite⟩ ?_
      cases (s.host.write ⟨"/", d.location.components ++ rest⟩ bytes).2 with
      | true => exact .inr rfl
      | false => exact .inl rfl
    · simp only [Download.store, if_neg hstatus]
      exact hasked

/-- **One download.** What has been confined stays so. -/
theorem confined_one (hb : d.GoesInto h name) {s : DownloadState} (hs : d.Confined h name s)
    (path : String) : d.Confined h name (d.one s path) := by
  by_cases husable : isUsable path = true
  · cases htarget : d.target? path with
    | none =>
      simp only [one, husable, htarget, Bool.not_true, Bool.false_eq_true, if_false]
      exact hs.withBroken _
    | some target =>
      simp only [one, husable, htarget, Bool.not_true, Bool.false_eq_true, if_false]
      obtain ⟨rest, rfl, hresolve⟩ := hb.exists_of_target? htarget
      exact hs.store hb hresolve (d.network.file path)
  · simp only [one, husable, Bool.not_false, if_true]
    exact hs.withBroken true

/-- A batch, in whichever order. -/
theorem confined_batch (hb : d.GoesInto h name) {s : DownloadState} (hs : d.Confined h name s)
    (paths : List String) : d.Confined h name (d.batch s paths) := by
  unfold batch
  split
  · exact hs
  · exact List.foldlRecOn (motive := d.Confined h name) _ d.one hs
      fun s hs path _ => confined_one hb hs path

/-- Batch by batch. -/
theorem confined_all (hb : d.GoesInto h name) {s : DownloadState} (hs : d.Confined h name s)
    (paths : List String) : d.Confined h name (d.all paths s) := by
  unfold all
  split
  · exact hs.withBroken true
  · exact List.foldlRecOn (motive := d.Confined h name) _ d.batch hs
      fun s hs piece _ => confined_batch hb hs piece

/-- With the files as they are by now, downloads go into the same area. -/
theorem Confined.goesInto_now {s : DownloadState} (hs : d.Confined h name s)
    (hb : d.GoesInto h name) : (d.now s).GoesInto h name := by
  obtain ⟨content, hfree, hhost⟩ := hs.area
  exact ⟨hb.opens, content, hfree, congrArg Host.files hhost⟩

/-- In any order, and with other answers each time. -/
theorem confined_series (hb : d.GoesInto h name) {s : DownloadState} (hs : d.Confined h name s)
    (steps : List (Network × String)) : d.Confined h name (d.series steps s) := by
  refine List.foldlRecOn (motive := d.Confined h name) _ _ hs fun s hs step _ => ?_
  -- neither where the area lies nor what is asked depends on the answers or on the files
  have hnow := hs.goesInto_now hb
  have hstep := confined_one (d := { d.now s with network := step.1 }) ⟨hnow.opens, hnow.files⟩
    (s := s) ⟨hs.area, hs.asked⟩ step.2
  exact ⟨hstep.area, hstep.asked⟩

/-- Downloads lead no path elsewhere, so it does not matter when it is looked up. -/
theorem one_now (hb : d.GoesInto h name) {s : DownloadState} (hs : d.Confined h name s)
    (path : String) : (d.now s).one s path = d.one s path := by
  have hresolve : (d.now s).resolve? path = d.resolve? path := by
    rw [hb.resolve?_eq, (hs.goesInto_now hb).resolve?_eq]
    rfl
  have htarget : (d.now s).target? path = d.target? path := by
    rw [target?, target?, hresolve]
    rfl
  simp only [one, hresolve, htarget]
  rfl

/-- Steps that are equal as long as something holds that they keep are equal to the end. -/
theorem foldl_eq_of_keeps {α : Type} {P : DownloadState → Prop}
    {f g : DownloadState → α → DownloadState} (hkeep : ∀ s item, P s → P (f s item))
    (heq : ∀ s item, P s → g s item = f s item) {s : DownloadState} (hs : P s) (items : List α) :
    items.foldl g s = items.foldl f s := by
  induction items generalizing s with
  | nil => rfl
  | cons item rest ih =>
    rw [List.foldl_cons, List.foldl_cons, heq s item hs]
    exact ih (hkeep s item hs)

/-- **Looking up.** All downloads come to the same whether paths are looked up at the beginning or
    when they have their turn. -/
theorem allNow_eq (hb : d.GoesInto h name) {s : DownloadState} (hs : d.Confined h name s)
    (paths : List String) : d.allNow paths s = d.all paths s := by
  have hbatch : ∀ s piece, d.Confined h name s → d.batchNow s piece = d.batch s piece := by
    intro s piece hs
    unfold batchNow batch
    split
    · rfl
    · exact foldl_eq_of_keeps (P := d.Confined h name)
        (fun s path hs => confined_one hb hs path) (fun s path hs => one_now hb hs path) hs _
  unfold allNow all
  split
  · rfl
  · exact foldl_eq_of_keeps (P := d.Confined h name)
      (fun s piece hs => confined_batch hb hs piece) hbatch hs _

namespace Confined

variable {s : DownloadState}

/-- Without the area the machine is what it was. -/
theorem addsArea (hs : d.Confined h name s) (hb : d.GoesInto h name) :
    s.host.AddsArea h d.location := by
  obtain ⟨content, hfree, hhost⟩ := hs.area
  rw [hhost]
  exact hb.opens.addsArea hfree

/-- What was asked for and counted leads into the area. -/
theorem asksInside (hs : d.Confined h name s) :
    h.AsksInside d.url d.location s.requests s.stored := by
  obtain ⟨asked, counted, hrequests, hinside, hsub, hlength⟩ := hs.asked
  have hurls : s.requests.map Request.url = asked.map (fileUrl d.url) := by
    rw [hrequests, List.map_map]
    rfl
  constructor
  · intro path hpath r hr hurl
    rw [hrequests, List.mem_map] at hr
    obtain ⟨other, hother, rfl⟩ := hr
    rw [← fileUrl_injective d.url hurl] at hpath
    exact hpath (hinside other hother)
  · refine ⟨counted, hlength, ?_, fun path hpath => hinside path (hsub.subset hpath)⟩
    rw [hurls]
    exact hsub.map _

end Confined

end Download

/-! ### The acquisition -/

/-- The number of files that an acquisition tells to have stored. -/
def AcquisitionRun.scanned (run : AcquisitionRun) : Nat :=
  match run.outcome with
  | .ok acquired => acquired.filesScanned
  | .error _ => 0

section Acquisition

variable (config : Config) (env : Environment) (network : Network) (mode : ScanMode)
  (text : String) (host : Host)

/-- With a plan and an area the files are downloaded; if that breaks the area goes again. -/
theorem acquire_of_openArea {url : RepoUrl} {plan : DownloadPlan} {location : FilePath}
    {opened : Host} (hparse : RepoUrl.parse text = .ok url)
    (hplan : planOf config mode network.tree = .ok plan)
    (hopen : host.openArea = some (location, opened)) :
    acquire config env network mode text host =
      let s := (Download.mk config url location network opened.files).all plan.paths
        { host := opened }
      if s.broken then
        ⟨(s.host.closeArea location).1, treeRequest config env url :: s.requests,
          .error .crashed⟩
      else
        ⟨s.host, treeRequest config env url :: s.requests,
          .ok ⟨location, plan.fileCount, s.stored, plan.capHit⟩⟩ := by
  simp only [acquire, hparse, hplan, carryOut, hopen]
  split <;> rfl

/-- **What an acquisition can do.** It stops before anything is made, with at most the request for
    the listing, or it makes an area, which goes again if the downloads break. -/
theorem acquire_cases :
    (∃ stop requests, acquire config env network mode text host = ⟨host, requests, .error stop⟩
      ∧ ∀ url, RepoUrl.parse text = .ok url → ∀ r ∈ requests, r = treeRequest config env url)
    ∨ ∃ url plan location opened, RepoUrl.parse text = .ok url
      ∧ planOf config mode network.tree = .ok plan
      ∧ host.openArea = some (location, opened)
      ∧ let s := (Download.mk config url location network opened.files).all plan.paths
          { host := opened }
        acquire config env network mode text host =
          if s.broken then
            ⟨(s.host.closeArea location).1, treeRequest config env url :: s.requests,
              .error .crashed⟩
          else
            ⟨s.host, treeRequest config env url :: s.requests,
              .ok ⟨location, plan.fileCount, s.stored, plan.capHit⟩⟩ := by
  cases hparse : RepoUrl.parse text with
  | error e =>
    exact .inl ⟨.failed (.invalidUrl e), [], by simp only [acquire, hparse], by simp⟩
  | ok url =>
    -- from here on the listing has been asked for, and nothing else
    have honly : ∀ other, Except.ok url = (Except.ok other : Except RepoUrlError RepoUrl) →
        ∀ r ∈ [treeRequest config env url], r = treeRequest config env other := by
      intro other hother r hr
      cases hother
      exact List.mem_singleton.mp hr
    cases hplan : planOf config mode network.tree with
    | error stop => exact .inl ⟨stop, _, by simp only [acquire, hparse, hplan], honly⟩
    | ok plan =>
      cases hopen : host.openArea with
      | none =>
        exact .inl ⟨.crashed, _, by simp only [acquire, hparse, hplan, carryOut, hopen], honly⟩
      | some made =>
        obtain ⟨location, opened⟩ := made
        exact .inr ⟨url, plan, location, opened, rfl, rfl, rfl,
          acquire_of_openArea config env network mode text host hparse hplan hopen⟩

/-- An acquisition that fails leaves the machine as it was, or else it had made an area and has
    removed it as far as the machine could. -/
theorem host_acquire_of_error {stop : AcquisitionStop}
    (h : (acquire config env network mode text host).outcome = .error stop) :
    (acquire config env network mode text host).host = host
      ∨ ∃ location opened name content, host.openArea = some (location, opened)
        ∧ host.Opens location name
        ∧ (acquire config env network mode text host).host
          = host.afterRemoval location name content := by
  rcases acquire_cases config env network mode text host with
    ⟨_, _, hrun, -⟩ | ⟨url, plan, location, opened, -, -, hopen, hrun⟩
  · exact .inl (by rw [hrun])
  · obtain ⟨name, hinto, rfl⟩ := Download.exists_goesInto config network url hopen
    have hs := Download.confined_all hinto Download.confined_empty plan.paths
    obtain ⟨content, -, hhost⟩ := hs.area
    refine .inr ⟨location, _, name, content, hopen, hinto.opens, ?_⟩
    simp only [hrun] at h ⊢
    split
    · rw [hhost, hinto.opens.closeArea_withArea]
    · rename_i hbroken
      rw [if_neg hbroken] at h
      cases h

/-- It changes nothing but, where the machine cannot remove an area, what lies in that place. -/
theorem sameBesides_of_acquire {stop : AcquisitionStop}
    (h : (acquire config env network mode text host).outcome = .error stop) :
    (acquire config env network mode text host).host = host
      ∨ ∃ location opened, host.openArea = some (location, opened)
        ∧ (acquire config env network mode text host).host.SameBesides host location := by
  rcases host_acquire_of_error config env network mode text host h with
    hsame | ⟨location, opened, name, content, hopen, hopens, hhost⟩
  · exact .inl hsame
  · rw [hhost, Host.afterRemoval]
    cases (host.removal location (some content)).left with
    | none => exact .inl rfl
    | some left => exact .inr ⟨location, opened, hopen, hopens.sameBesides left⟩

/-- Where the machine removes what it is asked to, nothing changes. -/
theorem host_acquire_of_removes (hremoves : host.Removes) {stop : AcquisitionStop}
    (h : (acquire config env network mode text host).outcome = .error stop) :
    (acquire config env network mode text host).host = host := by
  rcases host_acquire_of_error config env network mode text host h with
    hsame | ⟨location, opened, name, content, -, -, hhost⟩
  · exact hsame
  · rw [hhost, hremoves.afterRemoval_eq]

/-- An acquisition that succeeds leaves the machine with an area of some content. -/
theorem exists_withArea_of_acquire {acquired : Acquired}
    (h : (acquire config env network mode text host).outcome = .ok acquired) :
    ∃ opened name content, host.openArea = some (acquired.location, opened)
      ∧ host.Opens acquired.location name ∧ (FileNode.directory content).LinkFree
      ∧ (acquire config env network mode text host).host = host.withArea name content := by
  rcases acquire_cases config env network mode text host with
    ⟨_, _, hrun, -⟩ | ⟨url, plan, location, opened, -, -, hopen, hrun⟩
  · rw [hrun] at h
    cases h
  · obtain ⟨name, hinto, rfl⟩ := Download.exists_goesInto config network url hopen
    have hs := Download.confined_all hinto Download.confined_empty plan.paths
    obtain ⟨content, hfree, hhost⟩ := hs.area
    simp only [hrun] at h ⊢
    split
    · rename_i hbroken
      rw [if_pos hbroken] at h
      cases h
    · rename_i hbroken
      rw [if_neg hbroken] at h
      cases h
      exact ⟨_, name, content, hopen, hinto.opens, hfree, hhost⟩

/-- It changes nothing else. -/
theorem addsArea_of_acquire {acquired : Acquired}
    (h : (acquire config env network mode text host).outcome = .ok acquired) :
    (∃ opened, host.openArea = some (acquired.location, opened))
      ∧ (acquire config env network mode text host).host.AddsArea host acquired.location := by
  obtain ⟨opened, name, content, hopen, hopens, hfree, hhost⟩ :=
    exists_withArea_of_acquire config env network mode text host h
  rw [hhost]
  exact ⟨⟨opened, hopen⟩, hopens.addsArea hfree⟩

/-- Besides the listing an acquisition asks for files whose paths lead into the area, and it counts
    no others. -/
theorem asksInside_acquire {url : RepoUrl} {location : FilePath} {opened : Host}
    (hparse : RepoUrl.parse text = .ok url) (hopen : host.openArea = some (location, opened)) :
    host.AsksInside url location (acquire config env network mode text host).requests
      (acquire config env network mode text host).scanned := by
  rcases acquire_cases config env network mode text host with
    ⟨stop, requests, hrun, honly⟩ | ⟨url', plan, location', opened', hparse', -, hopen', hrun⟩
  · rw [hrun]
    refine Host.asksInside_of_never fun path _ r hr => ?_
    rw [honly url hparse r hr]
    exact listingUrl_ne_fileUrl url path
  · obtain rfl : url = url' := Except.ok.inj (hparse.symm.trans hparse')
    obtain ⟨rfl, rfl⟩ : location = location' ∧ opened = opened' := by
      simpa using hopen.symm.trans hopen'
    obtain ⟨name, hinto, rfl⟩ := Download.exists_goesInto config network url hopen
    have hs := Download.confined_all hinto Download.confined_empty plan.paths
    have hinside := hs.asksInside.cons (r := treeRequest config env url)
      (fun path => listingUrl_ne_fileUrl url path)
    simp only [hrun]
    split
    · exact Host.asksInside_of_never hinside.never
    · exact hinside

/-- **Containment.** A repository whose acquisition fails leaves the machine as it was, but for what
    it cannot remove of a new working area, and one that is acquired adds a new working area to it
    and changes nothing else.  No file is asked for or counted whose path leads out of the area;
    where it leads may as well be looked up anew for each file.  The same holds after any downloads
    into the area, in any order and whatever comes back for each of them. -/
theorem acquire_confined :
    (∀ stop, (acquire config env network mode text host).outcome = .error stop →
      ((acquire config env network mode text host).host = host
        ∨ ∃ location opened, host.openArea = some (location, opened)
          ∧ (acquire config env network mode text host).host.SameBesides host location)
      ∧ (host.Removes → (acquire config env network mode text host).host = host))
    ∧ (∀ acquired, (acquire config env network mode text host).outcome = .ok acquired →
      (∃ opened, host.openArea = some (acquired.location, opened))
        ∧ (acquire config env network mode text host).host.AddsArea host acquired.location)
    ∧ ∀ url location opened, RepoUrl.parse text = .ok url →
      host.openArea = some (location, opened) →
      host.AsksInside url location (acquire config env network mode text host).requests
          (acquire config env network mode text host).scanned
        ∧ (∀ paths, (Download.mk config url location network opened.files).allNow paths
            { host := opened }
          = (Download.mk config url location network opened.files).all paths { host := opened })
        ∧ ∀ steps,
          let s := (Download.mk config url location network opened.files).series steps
            { host := opened }
          s.host.AddsArea host location ∧ host.AsksInside url location s.requests s.stored := by
  refine ⟨fun stop hstop => ⟨sameBesides_of_acquire config env network mode text host hstop,
      fun hremoves => host_acquire_of_removes config env network mode text host hremoves hstop⟩,
    fun acquired => addsArea_of_acquire config env network mode text host, ?_⟩
  intro url location opened hparse hopen
  obtain ⟨name, hinto, hopened⟩ := Download.exists_goesInto config network url hopen
  refine ⟨asksInside_acquire config env network mode text host hparse hopen, fun paths => ?_,
    fun steps => ?_⟩
  · rw [hopened] at hinto ⊢
    exact Download.allNow_eq hinto Download.confined_empty paths
  rw [hopened] at hinto ⊢
  have hs := Download.confined_series hinto Download.confined_empty steps
  exact ⟨hs.addsArea hinto, hs.asksInside⟩

end Acquisition

end PlainScan

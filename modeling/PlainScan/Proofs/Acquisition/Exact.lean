import PlainScan.Proofs.Acquisition.Confinement
import PlainScan.Proofs.Acquisition.Selection
import PlainScan.Proofs.FileTree.Stored

namespace PlainScan

/-!
# Exact acquisition

Where the selected files are not in each other's way, each of them is asked for once, and those for
which a content comes back are in the area afterwards, with that content.  The size of the batches
shows only in the order of the requests.

* `FileReply.content?` — what came back for a file, if that succeeded.
* `Host.Separates` — paths that lead to places of their own in a working area.
* `Download.Done` — what has happened once some paths have been dealt with.
* `Download.Done.one` — one more of them.
* `acquire_exact` — what an acquisition asks for, stores and counts.
-/

open PlainScan.Text (Bytes)

/-- What came back for a file, if the download succeeded. -/
def FileReply.content? : FileReply → Option Bytes
  | .answered status content => if status = 200 then some content else none
  | .unreachable => none
  | .broken => none

theorem FileReply.content?_eq_some_iff {reply : FileReply} {bytes : Bytes} :
    reply.content? = some bytes ↔ reply = .answered 200 bytes := by
  cases reply with
  | answered status found => simp [content?]
  | unreachable => simp [content?]
  | broken => simp [content?]

/-- The download of a file succeeds. -/
def Network.delivers (network : Network) (path : String) : Bool :=
  (network.file path).content?.isSome

/-- Each path leads to a place of its own strictly inside a working area, none of these places is
    above another one, and files can be stored there. -/
structure Host.Separates (h : Host) (location : FilePath) (place : String → List String)
    (paths : List String) : Prop where
  usable : ∀ path ∈ paths, Download.isUsable path = true
  leads : ∀ path ∈ paths, h.files.resolve? location (FilePath.parse path)
    = some ⟨"/", location.components ++ place path⟩
  inside : ∀ path ∈ paths, place path ≠ []
  apart : paths.Pairwise fun one other =>
    ¬ place one <+: place other ∧ ¬ place other <+: place one
  reaches : ∀ path ∈ paths, Host.reaches ⟨"/", location.components ++ place path⟩ = true
  fits : ∀ path ∈ paths, (location.components ++ place path).all Directory.fits = true

namespace Host.Separates

variable {h : Host} {location : FilePath} {place : String → List String} {paths : List String}

/-- The first paths of some that are apart are apart. -/
theorem left {more : List String} (hsep : h.Separates location place (paths ++ more)) :
    h.Separates location place paths where
  usable path hpath := hsep.usable path (List.mem_append_left _ hpath)
  leads path hpath := hsep.leads path (List.mem_append_left _ hpath)
  inside path hpath := hsep.inside path (List.mem_append_left _ hpath)
  apart := (List.pairwise_append.mp hsep.apart).1
  reaches path hpath := hsep.reaches path (List.mem_append_left _ hpath)
  fits path hpath := hsep.fits path (List.mem_append_left _ hpath)

/-- The order of the paths does not matter. -/
theorem perm {order : List String} (hsep : h.Separates location place paths)
    (horder : order.Perm paths) : h.Separates location place order where
  usable path hpath := hsep.usable path (horder.mem_iff.mp hpath)
  leads path hpath := hsep.leads path (horder.mem_iff.mp hpath)
  inside path hpath := hsep.inside path (horder.mem_iff.mp hpath)
  apart := horder.symm.pairwise hsep.apart fun h => ⟨h.2, h.1⟩
  reaches path hpath := hsep.reaches path (horder.mem_iff.mp hpath)
  fits path hpath := hsep.fits path (horder.mem_iff.mp hpath)

end Host.Separates

/-! ### Downloads one after another -/

/-- The files that are downloaded for some paths, with their places. -/
def Network.deliveries (network : Network) (place : String → List String) (paths : List String) :
    List (List String × Bytes) :=
  paths.filterMap fun path => (network.file path).content?.map fun bytes => (place path, bytes)

/-- A file is at a place if its path leads there and it was downloaded. -/
theorem Network.mem_deliveries {network : Network} {place : String → List String}
    {paths : List String} {names : List String} {bytes : Bytes} :
    (names, bytes) ∈ network.deliveries place paths ↔
      ∃ path ∈ paths, place path = names ∧ (network.file path).content? = some bytes := by
  simp only [deliveries, List.mem_filterMap, Option.map_eq_some_iff, Prod.mk.injEq]
  constructor
  · rintro ⟨path, hpath, _, hcontent, hplace, rfl⟩
    exact ⟨path, hpath, hplace, hcontent⟩
  · rintro ⟨path, hpath, hplace, hcontent⟩
    exact ⟨path, hpath, bytes, hcontent, hplace, rfl⟩

namespace Download

variable {d : Download} {h : Host} {name : String} {place : String → List String}
  {paths : List String} {s : DownloadState}

/-- Some paths have been dealt with: each was asked for, those that were downloaded are counted and
    in the area, and nothing broke. -/
structure Done (d : Download) (h : Host) (name : String) (place : String → List String)
    (paths : List String) (s : DownloadState) : Prop where
  whole : s.broken = false
  asked : s.requests = paths.map d.request
  counted : s.stored = paths.countP d.network.delivers
  area : ∃ content, s.host = h.withArea name content
    ∧ content.Holds (d.network.deliveries place paths)

/-- At first none has. -/
theorem done_nil : d.Done h name place [] { host := h.withArea name [] } where
  whole := rfl
  asked := rfl
  counted := rfl
  area := ⟨[], rfl, Directory.holds_nil⟩

/-- A path that leads into the area is a target. -/
theorem target?_of_leads (hb : d.GoesInto h name) {path : String} {rest : List String}
    (hleads : h.files.resolve? d.location (FilePath.parse path)
      = some ⟨"/", d.location.components ++ rest⟩) :
    d.target? path = some ⟨"/", d.location.components ++ rest⟩ := by
  rw [target?, hb.resolve?_eq, hleads, Option.filter_some, if_pos]
  simp [FilePath.relativeTo?, hb.opens.root_eq]

/-- For such a path the file is asked for, and what comes back is stored. -/
theorem one_of_leads (hb : d.GoesInto h name) {path : String} {rest : List String}
    (husable : isUsable path = true)
    (hleads : h.files.resolve? d.location (FilePath.parse path)
      = some ⟨"/", d.location.components ++ rest⟩) (s : DownloadState) :
    d.one s path = store ⟨"/", d.location.components ++ rest⟩ (d.network.file path)
      { s with requests := s.requests ++ [d.request path] } := by
  simp [one, husable, target?_of_leads hb hleads]

/-- Nothing is stored where nothing came back. -/
theorem store_of_content?_eq_none {reply : FileReply} (hcontent : reply.content? = none)
    (hreply : reply ≠ .broken) (target : FilePath) (s : DownloadState) :
    store target reply s = s := by
  cases reply with
  | answered status bytes =>
    have hstatus : status ≠ 200 := by
      rintro rfl
      simp [FileReply.content?] at hcontent
    simp [store, hstatus]
  | unreachable => rfl
  | broken => exact absurd rfl hreply

/-- **Nothing came back.** The path has been asked for in vain. -/
theorem Done.one_none (hb : d.GoesInto h name) {path : String}
    (hsep : h.Separates d.location place (paths ++ [path]))
    (hreply : d.network.file path ≠ .broken) (hcontent : (d.network.file path).content? = none)
    (hs : d.Done h name place paths s) :
    d.Done h name place (paths ++ [path]) (d.one s path) := by
  have hmem : path ∈ paths ++ [path] := by simp
  have hdeliveries : d.network.deliveries place (paths ++ [path])
      = d.network.deliveries place paths := by
    simp [Network.deliveries, hcontent]
  rw [one_of_leads hb (hsep.usable path hmem) (hsep.leads path hmem),
    store_of_content?_eq_none hcontent hreply]
  constructor
  · exact hs.whole
  · simp [hs.asked]
  · simp [hs.counted, Network.delivers, hcontent]
  · rw [hdeliveries]
    exact hs.area

/-- **Something came back.** It is stored at the place of the path, where nothing else is in the
    way. -/
theorem Done.one_some (hb : d.GoesInto h name) {path : String}
    (hsep : h.Separates d.location place (paths ++ [path])) {bytes : Bytes}
    (hcontent : (d.network.file path).content? = some bytes)
    (hs : d.Done h name place paths s) :
    d.Done h name place (paths ++ [path]) (d.one s path) := by
  have hmem : path ∈ paths ++ [path] := by simp
  have hdeliveries : d.network.deliveries place (paths ++ [path])
      = d.network.deliveries place paths ++ [(place path, bytes)] := by
    simp [Network.deliveries, hcontent]
  obtain ⟨content, hhost, hholds⟩ := hs.area
  have hfits := hsep.fits path hmem
  rw [List.all_append, Bool.and_eq_true] at hfits
  -- the files that are there belong to earlier paths
  have hapart : ∀ file ∈ d.network.deliveries place paths,
      ¬ file.1 <+: place path ∧ ¬ place path <+: file.1 := by
    intro file hfile
    obtain ⟨other, hother, hplace, -⟩ := Network.mem_deliveries.mp hfile
    rw [← hplace]
    exact (List.pairwise_append.mp hsep.apart).2.2 other hother path (List.mem_singleton_self path)
  obtain ⟨hstored, hholds'⟩ := hholds.place (hsep.inside path hmem) hfits.2 hapart bytes
  have hwrite := hb.opens.write_withArea content (hsep.inside path hmem) bytes
    (hsep.reaches path hmem) hfits.1
  rw [← hhost, hstored] at hwrite
  -- one more request, one more file, and nothing else has changed
  have hone : d.one s path =
      { s with
        host := h.withArea name (content.place Directory.fits (place path) (.file bytes)).tree
        requests := s.requests ++ [d.request path]
        stored := s.stored + 1 } := by
    rw [one_of_leads hb (hsep.usable path hmem) (hsep.leads path hmem),
      FileReply.content?_eq_some_iff.mp hcontent]
    simp [store, hwrite]
  rw [hone]
  constructor
  · exact hs.whole
  · simp [hs.asked]
  · simp [hs.counted, Network.delivers, hcontent]
  · rw [hdeliveries]
    exact ⟨_, rfl, hholds'⟩

/-- **One more path.** It is asked for, and what comes back for it is stored. -/
theorem Done.one (hb : d.GoesInto h name) {path : String}
    (hsep : h.Separates d.location place (paths ++ [path]))
    (hreply : d.network.file path ≠ .broken) (hs : d.Done h name place paths s) :
    d.Done h name place (paths ++ [path]) (d.one s path) := by
  cases hcontent : (d.network.file path).content? with
  | none => exact hs.one_none hb hsep hreply hcontent
  | some bytes => exact hs.one_some hb hsep hcontent

/-- One path after another. -/
theorem Done.foldl_one (hb : d.GoesInto h name) {more : List String}
    (hsep : h.Separates d.location place (paths ++ more))
    (hreply : ∀ path ∈ more, d.network.file path ≠ .broken) (hs : d.Done h name place paths s) :
    d.Done h name place (paths ++ more) (more.foldl d.one s) := by
  induction more generalizing paths s with
  | nil => simpa using hs
  | cons path rest ih =>
    rw [List.append_cons] at hsep ⊢
    rw [List.forall_mem_cons] at hreply
    exact ih hsep hreply.2 (hs.one hb hsep.left hreply.1)

/-- Batch by batch. -/
theorem Done.foldl_batch (hb : d.GoesInto h name) {pieces : List (List String)}
    (hsep : h.Separates d.location place (paths ++ pieces.flatMap d.network.completion))
    (hreply : ∀ path ∈ pieces.flatMap d.network.completion, d.network.file path ≠ .broken)
    (hs : d.Done h name place paths s) :
    d.Done h name place (paths ++ pieces.flatMap d.network.completion)
      (pieces.foldl d.batch s) := by
  induction pieces generalizing paths s with
  | nil => simpa using hs
  | cons piece rest ih =>
    rw [List.flatMap_cons, ← List.append_assoc] at hsep ⊢
    rw [List.flatMap_cons, List.forall_mem_append] at hreply
    have hbatch : d.batch s piece = (d.network.completion piece).foldl d.one s := by
      simp [batch, hs.whole]
    rw [List.foldl_cons, hbatch]
    exact ih hsep hreply.2 (hs.foldl_one hb hsep.left hreply.1)

/-- The order in which paths are dealt with. -/
def order (d : Download) (paths : List String) : List String :=
  (batches d.config.downloadBatchSize paths).flatMap d.network.completion

/-- Each path has its turn, if each has in its batch. -/
theorem order_perm (hsize : 0 < d.config.downloadBatchSize)
    (hturn : ∀ batch, (d.network.completion batch).Perm batch) (paths : List String) :
    (d.order paths).Perm paths := by
  have hpieces : ∀ pieces : List (List String),
      (pieces.flatMap d.network.completion).Perm pieces.flatten := by
    intro pieces
    induction pieces with
    | nil => exact List.Perm.refl []
    | cons piece rest ih =>
      rw [List.flatMap_cons, List.flatten_cons]
      exact (hturn piece).append ih
  have hall := hpieces (batches d.config.downloadBatchSize paths)
  rwa [flatten_batches hsize] at hall

/-- **All paths.** -/
theorem done_all (hb : d.GoesInto h name) (hsize : 0 < d.config.downloadBatchSize)
    (hsep : h.Separates d.location place (d.order paths))
    (hreply : ∀ path ∈ d.order paths, d.network.file path ≠ .broken) :
    d.Done h name place (d.order paths) (d.all paths { host := h.withArea name [] }) := by
  have hne : d.config.downloadBatchSize ≠ 0 := by omega
  have hnil : d.Done h name place [] { host := h.withArea name [] } := done_nil
  simp only [all, if_neg hne]
  exact hnil.foldl_batch hb hsep hreply

/-! ### Failures that nobody foresaw -/

/-- What one item of a list brings about and all others keep is there in the end. -/
theorem foldl_of_mem {α : Type} {P : DownloadState → Prop} {f : DownloadState → α → DownloadState}
    (hkeep : ∀ s item, P s → P (f s item)) {item : α} (hmake : ∀ s, P (f s item))
    {items : List α} (hmem : item ∈ items) (s : DownloadState) : P (items.foldl f s) := by
  obtain ⟨front, back, rfl⟩ := List.append_of_mem hmem
  rw [List.foldl_append, List.foldl_cons]
  exact List.foldlRecOn (motive := P) back f (hmake _) fun s hs item _ => hkeep s item hs

/-- What is broken stays so. -/
theorem broken_one (hs : s.broken = true) (path : String) : (d.one s path).broken = true := by
  unfold one
  split
  · rfl
  · split
    · simp [hs]
    · unfold store
      split
      · split
        · exact hs
        · exact hs
      · exact hs
      · rfl

theorem broken_batch (hs : s.broken = true) (piece : List String) :
    (d.batch s piece).broken = true := by
  simp [batch, hs]

/-- It breaks where a failure comes back that nobody foresaw. -/
theorem broken_one_of_reply {path : String} (husable : isUsable path = true)
    {target : FilePath} (htarget : d.target? path = some target)
    (hreply : d.network.file path = .broken) (s : DownloadState) :
    (d.one s path).broken = true := by
  simp [one, husable, htarget, hreply, store]

/-- Whenever that is. -/
theorem broken_all (hsize : 0 < d.config.downloadBatchSize) {path : String}
    (hpath : path ∈ d.order paths) (hone : ∀ s, (d.one s path).broken = true)
    (s : DownloadState) : (d.all paths s).broken = true := by
  have hne : d.config.downloadBatchSize ≠ 0 := by omega
  obtain ⟨piece, hpiece, hmem⟩ := List.mem_flatMap.mp hpath
  simp only [all, if_neg hne]
  refine foldl_of_mem (P := fun s => s.broken = true) (fun s piece hs => broken_batch hs piece) ?_
    hpiece s
  intro s
  by_cases hs : s.broken = true
  · exact broken_batch hs piece
  · simp only [batch, if_neg hs]
    exact foldl_of_mem (P := fun s => s.broken = true) (fun s path hs => broken_one hs path) hone
      hmem s

end Download

/-! ### The acquisition -/

section Acquisition

variable {config : Config} {network : Network} {mode : ScanMode} {text : String} {host : Host}
  {url : RepoUrl} {entries : List TreeEntry} {limit : Int} {location : FilePath} {opened : Host}
  {place : String → List String}

variable (env : Environment) (hparse : RepoUrl.parse text = .ok url)
  (hreply : network.tree.Lists entries) (hlimit : config.maxFileBytes? = some limit)
  (hturn : ∀ batch, (network.completion batch).Perm batch)
  (hopen : host.openArea = some (location, opened))
  (hsep : host.Separates location place (TreeEntry.selected config mode limit entries))
  (hsize : 0 < config.downloadBatchSize)

include hparse hreply hlimit hturn hopen hsep hsize

/-- An acquisition ends where a failure comes back that nobody foresaw. -/
theorem acquire_crashed
    (hbroken : ∃ path ∈ TreeEntry.selected config mode limit entries,
      network.file path = .broken) :
    (acquire config env network mode text host).outcome = .error .crashed := by
  obtain ⟨path, hpath, hreplied⟩ := hbroken
  obtain ⟨name, hb, -⟩ := Download.exists_goesInto config network url hopen
  have horder := Download.order_perm (d := ⟨config, url, location, network, opened.files⟩) hsize
    hturn (TreeEntry.selected config mode limit entries)
  have hone := Download.broken_one_of_reply (hsep.usable path hpath)
    (Download.target?_of_leads hb (hsep.leads path hpath)) hreplied
  have hall := Download.broken_all hsize (horder.mem_iff.mpr hpath) hone { host := opened }
  rw [acquire_of_openArea config env network mode text host hparse
    (planOf_of_lists hreply hlimit) hopen]
  dsimp only
  rw [if_pos hall]

/-- Without such a failure every selected file has its turn. -/
theorem exists_done_of_foreseen
    (hforeseen : ∀ path ∈ TreeEntry.selected config mode limit entries,
      network.file path ≠ .broken) :
    let paths := TreeEntry.selected config mode limit entries
    let d := Download.mk config url location network opened.files
    ∃ name s, host.Opens location name ∧ d.Done host name place (d.order paths) s
      ∧ acquire config env network mode text host = ⟨s.host,
        treeRequest config env url :: s.requests,
        .ok ⟨location, (TreeEntry.blobs entries).length, s.stored,
          decide (config.maxFiles mode < (TreeEntry.eligible config limit entries).length)⟩⟩ := by
  intro paths d
  obtain ⟨name, hb, hopened⟩ := Download.exists_goesInto config network url hopen
  have horder : (d.order paths).Perm paths := Download.order_perm hsize hturn paths
  have hdone : d.Done host name place (d.order paths) (d.all paths { host := opened }) := by
    rw [hopened]
    exact Download.done_all hb hsize (hsep.perm horder) fun path hpath =>
      hforeseen path (horder.mem_iff.mp hpath)
  refine ⟨name, _, hb.opens, hdone, ?_⟩
  have hwhole : ¬ (d.all paths { host := opened }).broken = true := by simp [hdone.whole]
  have hacquire := acquire_of_openArea config env network mode text host hparse
    (planOf_of_lists hreply hlimit) hopen
  dsimp only at hacquire
  rwa [if_neg hwhole] at hacquire

/-- What it has come to in the end. -/
theorem acquire_foreseen
    (hforeseen : ∀ path ∈ TreeEntry.selected config mode limit entries,
      network.file path ≠ .broken) :
    let paths := TreeEntry.selected config mode limit entries
    let d := Download.mk config url location network opened.files
    let run := acquire config env network mode text host
    run.outcome = .ok ⟨location, (TreeEntry.blobs entries).length, paths.countP network.delivers,
        decide (config.maxFiles mode < (TreeEntry.eligible config limit entries).length)⟩
      ∧ run.requests = treeRequest config env url :: (d.order paths).map d.request
      ∧ ∃ content, run.host.directory? location.components = some content
        ∧ ∀ names bytes, content.lookup? names = some (.file bytes) ↔
          ∃ path ∈ paths, place path = names ∧ (network.file path).content? = some bytes := by
  intro paths d run
  have horder : (d.order paths).Perm paths := Download.order_perm hsize hturn paths
  obtain ⟨name, s, hopens, hdone, hrun⟩ :=
    exists_done_of_foreseen env hparse hreply hlimit hturn hopen hsep hsize hforeseen
  have hrun' : run = _ := hrun
  -- each part is what the run has counted, asked for and stored
  obtain ⟨content, hhost, hholds⟩ := hdone.area
  rw [hrun']
  refine ⟨?_, ?_, content, ?_, ?_⟩
  · show Except.ok (Acquired.mk location _ s.stored _) = _
    rw [hdone.counted, horder.countP_eq]
  · show treeRequest config env url :: s.requests = _
    rw [hdone.asked]
  · show s.host.directory? location.components = some content
    rw [hhost]
    exact hopens.directory?_withArea content
  · intro names bytes
    rw [hholds.file_iff, Network.mem_deliveries]
    exact exists_congr fun path => and_congr_left' horder.mem_iff

end Acquisition

/-! ### The size of the batches -/

/-- The settings with another size of the batches. -/
def Config.inBatches (config : Config) (size : Nat) : Config :=
  { config with downloadBatchSize := size }

section Batches

variable {config : Config}

/-- Which files are wanted does not depend on it. -/
theorem eligible_inBatches (size : Nat) (limit : Int) (entries : List TreeEntry) :
    TreeEntry.eligible (config.inBatches size) limit entries
      = TreeEntry.eligible config limit entries := by
  simp only [TreeEntry.eligible, isWantedPath, Config.inBatches]

/-- Nor does it depend on it how many files a scan may take. -/
theorem maxFiles_inBatches (size : Nat) (mode : ScanMode) :
    (config.inBatches size).maxFiles mode = config.maxFiles mode := by
  cases mode <;> rfl

theorem selected_inBatches (size : Nat) (mode : ScanMode) (limit : Int)
    (entries : List TreeEntry) :
    TreeEntry.selected (config.inBatches size) mode limit entries
      = TreeEntry.selected config mode limit entries := by
  simp only [TreeEntry.selected, eligible_inBatches, maxFiles_inBatches]

variable {network : Network} {mode : ScanMode} {text : String} {host : Host} {url : RepoUrl}
  {entries : List TreeEntry} {limit : Int} {location : FilePath} {opened : Host}
  {place : String → List String}

/-- **Exact acquisition.** Of a repository that is listed, the first files that a scan may take, as
    many as the mode allows, are asked for once each, batch by batch in the order of the listing.
    The files that are then in the area are those whose download succeeded, with the bytes that
    came back.  What is counted and whether the cap is hit follows from the listing and the
    replies, and it does not depend on the size of the batches.  A failure that nobody foresaw
    ends the acquisition. -/
theorem acquire_exact (env : Environment) (hparse : RepoUrl.parse text = .ok url)
    (hreply : network.tree.Lists entries) (hlimit : config.maxFileBytes? = some limit)
    (hturn : ∀ batch, (network.completion batch).Perm batch)
    (hopen : host.openArea = some (location, opened))
    (hsep : host.Separates location place (TreeEntry.selected config mode limit entries)) :
    let paths := TreeEntry.selected config mode limit entries
    let run := fun size => acquire (config.inBatches size) env network mode text host
    ((∃ path ∈ paths, network.file path = .broken) →
      ∀ size, 0 < size → (run size).outcome = .error .crashed)
    ∧ ((∀ path ∈ paths, network.file path ≠ .broken) →
      ∃ acquired : Acquired, acquired.location = location
        ∧ acquired.fileCount = (TreeEntry.blobs entries).length
        ∧ acquired.filesScanned = paths.countP network.delivers
        ∧ acquired.filesSkipped = acquired.fileCount - acquired.filesScanned
        ∧ 0 ≤ acquired.filesSkipped
        ∧ (acquired.capHit = true ↔
            config.maxFiles mode < (TreeEntry.eligible config limit entries).length)
        ∧ ∀ size, 0 < size → (run size).outcome = .ok acquired
          ∧ (∃ order, (run size).requests = treeRequest config env url
                :: order.map (Download.mk config url location network opened.files).request
              ∧ order = (Download.batches size paths).flatMap network.completion
              ∧ order.Perm paths ∧ (network.completion = id → order = paths))
          ∧ ∃ content, (run size).host.directory? location.components = some content
            ∧ ∀ names bytes, content.lookup? names = some (.file bytes) ↔
              ∃ path ∈ paths, place path = names
                ∧ (network.file path).content? = some bytes) := by
  intro paths run
  -- neither the limit nor the selection depends on the size of the batches
  have hlimit' : ∀ size, (config.inBatches size).maxFileBytes? = some limit := fun _ => hlimit
  have hpaths : ∀ size, TreeEntry.selected (config.inBatches size) mode limit entries = paths :=
    fun size => selected_inBatches size mode limit entries
  have hsep' : ∀ size, host.Separates location place
      (TreeEntry.selected (config.inBatches size) mode limit entries) := by
    intro size
    rwa [hpaths size]
  constructor
  -- a reply that breaks
  · intro hbroken size hsize
    refine acquire_crashed env hparse hreply (hlimit' size) hturn hopen (hsep' size) hsize ?_
    rwa [hpaths size]
  -- no reply breaks: the counts are those of the listing and the replies, the same for every size
  · intro hforeseen
    have hcount : paths.countP network.delivers ≤ (TreeEntry.blobs entries).length :=
      Nat.le_trans List.countP_le_length
        (TreeEntry.length_selected_le config mode limit entries)
    have hskipped : (0 : Int) ≤ ((TreeEntry.blobs entries).length : Int)
        - (paths.countP network.delivers : Nat) := by omega
    refine ⟨⟨location, (TreeEntry.blobs entries).length, paths.countP network.delivers,
      decide (config.maxFiles mode < (TreeEntry.eligible config limit entries).length)⟩, rfl, rfl,
      rfl, rfl, hskipped, decide_eq_true_iff, ?_⟩
    intro size hsize
    obtain ⟨houtcome, hrequests, hcontent⟩ := acquire_foreseen env hparse hreply (hlimit' size)
      hturn hopen (hsep' size) hsize (by rwa [hpaths size])
    rw [hpaths size] at houtcome hrequests hcontent
    rw [maxFiles_inBatches, eligible_inBatches] at houtcome
    refine ⟨houtcome, ⟨_, hrequests, rfl, Download.order_perm hsize hturn paths, ?_⟩, hcontent⟩
    -- where batches complete in their order, the requests are in that of the listing
    intro hid
    show (Download.batches size paths).flatMap network.completion = paths
    rw [hid, List.flatMap_id, Download.flatten_batches hsize]

end Batches

/-! ### A listing with more files than may be taken -/

namespace Sample

/-- Four files, one of which is not wanted, and a directory. -/
def entries : List TreeEntry :=
  [⟨"tree", "src", none⟩, ⟨"blob", "src/app.js", some 3⟩, ⟨"blob", "logo.png", some 7⟩,
    ⟨"blob", "README.md", none⟩, ⟨"blob", "index.html", some 0⟩]

/-- What stands for the directory and for the files. -/
def items : List Json :=
  [.obj [("path", .str "src"), ("mode", .str "040000"), ("type", .str "tree")],
    .obj [("path", .str "src/app.js"), ("type", .str "blob"), ("size", .int 3)],
    .obj [("path", .str "logo.png"), ("type", .str "blob"), ("size", .int 7)],
    .obj [("path", .str "README.md"), ("type", .str "blob")],
    .obj [("path", .str "index.html"), ("type", .str "blob"), ("size", .int 0)]]

/-- All files can be downloaded but one, and the last download of a batch comes to its end first. -/
def network : Network :=
  { tree := .answered 200 "OK" (some (.obj [("tree", .arr items), ("truncated", .bool false)]))
    file := fun path => if path = "README.md" then .unreachable else .answered 200 [1, 2, 3]
    completion := List.reverse }

/-- A scan may take two files. -/
def config : Config := { fastMaxFiles := 2 }

/-- A machine without files. -/
def host : Host := ⟨[("tmp", .directory [])], ["tmp"], fun _ => .upTo Removal.levelLimit⟩

/-- Where the working area lies. -/
def location : FilePath := ⟨"/", ["tmp", "lumenclew-0"]⟩

/-- A file goes to where its path says. -/
def place (path : String) : List String := (FilePath.parse path).components

theorem lists : network.tree.Lists entries := by
  refine ⟨200, "OK", _, items, rfl, by decide, rfl, ?_⟩
  exact .cons ⟨_, rfl, rfl, rfl, rfl⟩ <| .cons ⟨_, rfl, rfl, rfl, rfl⟩ <|
    .cons ⟨_, rfl, rfl, rfl, rfl⟩ <| .cons ⟨_, rfl, rfl, rfl, rfl⟩ <|
    .cons ⟨_, rfl, rfl, rfl, rfl⟩ .nil

theorem separates :
    host.Separates location place (TreeEntry.selected config .fast 1048576 entries) := by
  have hselected : TreeEntry.selected config .fast 1048576 entries
      = ["src/app.js", "README.md"] := by decide +kernel
  rw [hselected]
  constructor <;> decide +kernel

/-- One of two files is stored, and a third one might have been taken. -/
theorem acquire_exact_two :
    RepoUrl.parse "https://github.com/owner/repo" = .ok ⟨"owner", "repo"⟩
      ∧ network.tree.Lists entries
      ∧ config.maxFileBytes? = some 1048576
      ∧ (∀ batch, (network.completion batch).Perm batch)
      ∧ (∃ opened, host.openArea = some (location, opened))
      ∧ host.Separates location place (TreeEntry.selected config .fast 1048576 entries)
      ∧ ∀ size, 0 < size →
        (acquire (config.inBatches size) {} network .fast "https://github.com/owner/repo"
          host).outcome = .ok ⟨location, 4, 1, true⟩ := by
  have hparse : RepoUrl.parse "https://github.com/owner/repo" = .ok ⟨"owner", "repo"⟩ := by
    decide +kernel
  have hlimit : config.maxFileBytes? = some 1048576 := by decide +kernel
  have hturn : ∀ batch, (network.completion batch).Perm batch := List.reverse_perm
  have harea : host.openArea.map (·.1) = some location := by decide +kernel
  obtain ⟨⟨_, opened⟩, hopen, rfl⟩ := Option.map_eq_some_iff.mp harea
  refine ⟨hparse, lists, hlimit, hturn, ⟨opened, hopen⟩, separates, ?_⟩
  have hforeseen : ∀ path ∈ TreeEntry.selected config .fast 1048576 entries,
      network.file path ≠ .broken := by
    intro path _
    show (if path = "README.md" then FileReply.unreachable else .answered 200 [1, 2, 3]) ≠ .broken
    split <;> simp
  obtain ⟨⟨_, count, scanned, cap⟩, rfl, hcount, hscanned, -, -, hcap, hrun⟩ :=
    (acquire_exact {} hparse lists hlimit hturn hopen separates).2 hforeseen
  -- what the theorem leaves open is counted in the listing
  have hblobs : (TreeEntry.blobs entries).length = 4 := by decide +kernel
  have hdelivered : (TreeEntry.selected config .fast 1048576 entries).countP network.delivers
      = 1 := by decide +kernel
  have hmore : config.maxFiles .fast < (TreeEntry.eligible config 1048576 entries).length := by
    decide +kernel
  obtain rfl : count = 4 := hcount.trans hblobs
  obtain rfl : scanned = 1 := hscanned.trans hdelivered
  obtain rfl : cap = true := hcap.mpr hmore
  exact fun size hsize => (hrun size hsize).1

end Sample

end PlainScan

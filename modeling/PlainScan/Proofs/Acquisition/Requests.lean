import PlainScan.Acquisition.Acquire
import PlainScan.Proofs.Acquisition.Address

namespace PlainScan

/-!
# The requests of an acquisition

Every request names a repository: the listing in the path of the API, a file in the path of its
content.

* `Request.repository?` — the repository that a request names.
* `Download.requests_one` — the requests of one download; `Download.forall_requests_all` — of all
    downloads.
* `repository?_of_mem_acquire` — every request of an acquisition names the repository that the
    address is parsed as.
-/

/-! ### The repository of a request -/

/-- What stands before the repository in the requests for a listing. -/
def listingRoot : List Char := "https://api.github.com/repos/".toList

/-- What stands before the repository in the requests for files. -/
def contentRoot : List Char := "https://raw.githubusercontent.com/".toList

/-- The first two segments of a path. -/
def namedIn (path : List Char) : RepoUrl :=
  let behind := (path.dropWhile (· != '/')).drop 1
  ⟨String.ofList (path.takeWhile (· != '/')), String.ofList (behind.takeWhile (· != '/'))⟩

/-- The repository that a request names. -/
def Request.repository? (r : Request) : Option RepoUrl :=
  [listingRoot, contentRoot].findSome? fun root =>
    if Text.startsWith root r.url.toList then some (namedIn (r.url.toList.drop root.length))
    else none

/-- A segment ends at a slash. -/
theorem takeWhile_segment {segment : List Char} (h : ∀ c ∈ segment, c ≠ '/') (rest : List Char) :
    (segment ++ '/' :: rest).takeWhile (· != '/') = segment
      ∧ (segment ++ '/' :: rest).dropWhile (· != '/') = '/' :: rest := by
  have hall : ∀ c ∈ segment, (c != '/') = true := fun c hc => bne_iff_ne.mpr (h c hc)
  constructor
  · rw [List.takeWhile_append_of_pos hall, List.takeWhile_cons_of_neg (by simp), List.append_nil]
  · rw [List.dropWhile_append_of_pos hall, List.dropWhile_cons_of_neg (by simp)]

/-- Owner and name are the first two segments. -/
theorem RepoUrl.Names.namedIn_eq {url : RepoUrl} (h : url.Names) (rest : List Char) :
    namedIn (url.owner.toList ++ '/' :: (url.repo.toList ++ '/' :: rest)) = url := by
  have howner : ∀ c ∈ url.owner.toList, c ≠ '/' := by
    rintro c hc rfl
    cases h.owner_chars _ hc
  have hrepo : ∀ c ∈ url.repo.toList, c ≠ '/' := by
    rintro c hc rfl
    cases h.repo_chars _ hc
  obtain ⟨htake, hdrop⟩ := takeWhile_segment howner (url.repo.toList ++ '/' :: rest)
  simp only [namedIn, htake, hdrop, List.drop_succ_cons, List.drop_zero,
    (takeWhile_segment hrepo rest).1, String.ofList_toList]

/-- The characters of an address on either host. -/
theorem toList_onHost (root : String) (url : RepoUrl) (path : String) :
    (root ++ url.owner ++ "/" ++ url.repo ++ path).toList
      = root.toList ++ (url.owner.toList ++ '/' :: (url.repo.toList ++ path.toList)) := by
  have hslash : "/".toList = ['/'] := rfl
  rw [String.toList_append, String.toList_append, String.toList_append, String.toList_append,
    hslash, List.append_assoc, List.append_assoc, List.append_assoc, List.singleton_append]

theorem toList_listingUrl (url : RepoUrl) :
    (listingUrl url).toList = listingRoot ++ (url.owner.toList ++
      '/' :: (url.repo.toList ++ "/git/trees/HEAD?recursive=1".toList)) :=
  toList_onHost _ url _

/-- The characters of an address that goes on behind a fixed path. -/
theorem toList_onHost_append (root : String) (url : RepoUrl) (mid path : String) :
    (root ++ url.owner ++ "/" ++ url.repo ++ mid ++ path).toList
      = root.toList ++ (url.owner.toList ++
          '/' :: (url.repo.toList ++ (mid.toList ++ path.toList))) := by
  rw [String.toList_append, toList_onHost, List.append_assoc, List.append_assoc, List.cons_append,
    List.append_assoc]

theorem toList_fileUrl (url : RepoUrl) (path : String) :
    (fileUrl url path).toList = contentRoot ++ (url.owner.toList ++
      '/' :: (url.repo.toList ++ ("/HEAD/".toList ++ path.toList))) :=
  toList_onHost_append _ url _ path

/-- The request for a listing names the repository. -/
theorem repository?_treeRequest (config : Config) (env : Environment) {url : RepoUrl}
    (h : url.Names) : (treeRequest config env url).repository? = some url := by
  have hpath : "/git/trees/HEAD?recursive=1".toList
      = '/' :: "git/trees/HEAD?recursive=1".toList := by decide +kernel
  have hurl : (treeRequest config env url).url.toList = _ := toList_listingUrl url
  have hroot : Text.startsWith listingRoot (treeRequest config env url).url.toList = true := by
    rw [hurl]
    exact List.isPrefixOf_iff_prefix.mpr (List.prefix_append _ _)
  rw [Request.repository?, List.findSome?_cons, if_pos hroot, hurl, List.drop_left, hpath,
    h.namedIn_eq]

/-- The request for a file names the repository. -/
theorem Download.repository?_request {d : Download} (h : d.url.Names) (path : String) :
    (d.request path).repository? = some d.url := by
  have hpath : "/HEAD/".toList = '/' :: "HEAD/".toList := by decide +kernel
  have hurl : (d.request path).url.toList = _ := toList_fileUrl d.url path
  -- the two hosts differ, so the first one is passed over
  have hother : Text.startsWith listingRoot (d.request path).url.toList = false := by
    rw [hurl]
    rfl
  have hroot : Text.startsWith contentRoot (d.request path).url.toList = true := by
    rw [hurl]
    exact List.isPrefixOf_iff_prefix.mpr (List.prefix_append _ _)
  rw [Request.repository?, List.findSome?_cons, hother, if_neg Bool.false_ne_true,
    List.findSome?_cons, if_pos hroot, hurl, List.drop_left, hpath, List.cons_append,
    h.namedIn_eq]

/-! ### Downloads -/

namespace Download

/-- What is stored makes no requests. -/
theorem requests_store (target : FilePath) (reply : FileReply) (s : DownloadState) :
    (store target reply s).requests = s.requests := by
  unfold store
  split
  · split
    · rfl
    · rfl
  · rfl
  · rfl

/-- A download makes the request for its file, or none. -/
theorem requests_one (d : Download) (s : DownloadState) (path : String) :
    (d.one s path).requests = s.requests
      ∨ (d.one s path).requests = s.requests ++ [d.request path] := by
  unfold one
  split
  · exact .inl rfl
  · split
    · exact .inl rfl
    · exact .inr (requests_store _ _ _)

section Requests

variable {d : Download} {P : Request → Prop}

/-- What holds of every request for a file holds after a download if it did before. -/
theorem forall_requests_one (hP : ∀ path, P (d.request path)) {s : DownloadState}
    (h : ∀ r ∈ s.requests, P r) (path : String) : ∀ r ∈ (d.one s path).requests, P r := by
  rcases d.requests_one s path with hsame | hmore
  · rwa [hsame]
  · rw [hmore]
    intro r hr
    rcases List.mem_append.mp hr with hr | hr
    · exact h r hr
    · rw [List.mem_singleton.mp hr]
      exact hP path

/-- It holds after a batch. -/
theorem forall_requests_batch (hP : ∀ path, P (d.request path)) {s : DownloadState}
    (h : ∀ r ∈ s.requests, P r) (paths : List String) :
    ∀ r ∈ (d.batch s paths).requests, P r := by
  unfold batch
  split
  · exact h
  · refine List.foldlRecOn (motive := fun s => ∀ r ∈ s.requests, P r) _ d.one h ?_
    exact fun s hs path _ => forall_requests_one hP hs path

/-- **All downloads.** What holds of every request for a file holds of all that are made. -/
theorem forall_requests_all (hP : ∀ path, P (d.request path)) {s : DownloadState}
    (h : ∀ r ∈ s.requests, P r) (paths : List String) : ∀ r ∈ (d.all paths s).requests, P r := by
  unfold all
  split
  · exact h
  · refine List.foldlRecOn (motive := fun s => ∀ r ∈ s.requests, P r) _ d.batch h ?_
    exact fun s hs piece _ => forall_requests_batch hP hs piece

end Requests

end Download

/-! ### The acquisition -/

/-- Every request for the files of a plan names the repository. -/
theorem repository?_of_mem_carryOut {config : Config} {network : Network} {url : RepoUrl}
    (h : url.Names) {plan : DownloadPlan} {host : Host} {r : Request}
    (hr : r ∈ (carryOut config network url plan host).requests) : r.repository? = some url := by
  unfold carryOut at hr
  split at hr
  · cases hr
  · rename_i location opened _
    have hall : ∀ r ∈ ((⟨config, url, location, network, opened.files⟩ : Download).all plan.paths
        { host := opened }).requests, r.repository? = some url := by
      refine Download.forall_requests_all (fun path => Download.repository?_request h path) ?_ _
      intro r hr
      cases hr
    -- what was requested is the same whether the downloads broke or not
    dsimp only at hr
    split at hr
    · exact hall r hr
    · exact hall r hr

/-- **The acquisition.** Every request names the repository that the address is parsed as. -/
theorem repository?_of_mem_acquire {config : Config} {env : Environment} {network : Network}
    {mode : ScanMode} {text : String} {host : Host} {url : RepoUrl}
    (h : RepoUrl.parse text = .ok url) {r : Request}
    (hr : r ∈ (acquire config env network mode text host).requests) :
    r.repository? = some url := by
  have hnames := RepoUrl.names_of_parse h
  have hfirst := repository?_treeRequest config env hnames
  simp only [acquire, h] at hr
  split at hr
  · rw [List.mem_singleton.mp hr]
    exact hfirst
  · rcases List.mem_cons.mp hr with rfl | hr
    · exact hfirst
    · exact repository?_of_mem_carryOut hnames hr

end PlainScan

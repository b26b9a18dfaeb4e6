import Mathlib.Data.List.Forall2
import PlainScan.Acquisition.Acquire

namespace PlainScan

/-!
# What a listing selects

A listing is an object whose entries have a kind, a path and, where they are files, a size.  A scan
takes the first files that are wanted and not too large.

* `TreeEntry` — an entry; `TreeEntry.IsWritten` — the values that stand for it.
* `TreeReply.Lists` — a reply that lists some entries.
* `TreeEntry.blobs`, `TreeEntry.eligible`, `TreeEntry.selected` — the files, those that a scan may
  take, and the paths of those that it takes.
* `TreeEntry.selected_sublist`, `TreeEntry.mem_selected_of_le` — which files are taken.
* `planOf_of_lists` — the plan for a reply is made of these.
-/

/-- An entry of a listing: its kind, its path, and its size if that is told. -/
structure TreeEntry where
  kind : String
  path : String
  size : Option Int
  deriving DecidableEq, Repr, Inhabited

namespace TreeEntry

/-! ### Written entries -/

/-- The value of a size. -/
def sizeValue (e : TreeEntry) : Json :=
  match e.size with
  | some n => .int n
  | none => .null

/-- An object stands for an entry if it has the kind, the path and the size of that; a size that is
    not told is absent or null.  Other fields do not matter. -/
def IsWritten (e : TreeEntry) (item : Json) : Prop :=
  ∃ fields : Fields, item = .obj fields
    ∧ fields.get? "type" = some (.str e.kind)
    ∧ fields.get? "path" = some (.str e.path)
    ∧ (fields.get? "size").getD .null = e.sizeValue

/-! ### Selected entries -/

/-- The entry is a file. -/
def isBlob (e : TreeEntry) : Bool := e.kind == "blob"

/-- The entry is not too large: no size is told, or it is zero or within the limit. -/
def fits (limit : Int) (e : TreeEntry) : Bool :=
  match e.size with
  | some n => n == 0 || n ≤ limit
  | none => true

/-- The files among some entries. -/
def blobs (entries : List TreeEntry) : List TreeEntry := entries.filter isBlob

/-- The files that a scan may take: their paths are wanted, and they are not too large. -/
def eligible (config : Config) (limit : Int) (entries : List TreeEntry) : List TreeEntry :=
  (blobs entries).filter fun e => isWantedPath config (FilePath.parse e.path) && e.fits limit

/-- The paths of the files that a scan takes: of those that it may take the first ones, as many as
    the mode allows. -/
def selected (config : Config) (mode : ScanMode) (limit : Int) (entries : List TreeEntry) :
    List String :=
  ((eligible config limit entries).take (config.maxFiles mode)).map (·.path)

/-- No more files are taken than there are. -/
theorem length_selected_le (config : Config) (mode : ScanMode) (limit : Int)
    (entries : List TreeEntry) :
    (selected config mode limit entries).length ≤ (blobs entries).length := by
  have heligible : (eligible config limit entries).length ≤ (blobs entries).length :=
    List.length_filter_le _ _
  simp only [selected, List.length_map, List.length_take]
  omega

end TreeEntry

/-- A reply lists some entries: it reports no failure, and its body is an object with values that
    stand for the entries, in order. -/
def TreeReply.Lists (reply : TreeReply) (entries : List TreeEntry) : Prop :=
  ∃ (status : Int) (reason : String) (fields : Fields) (items : List Json),
    reply = .answered status reason (some (.obj fields)) ∧ status < 400
      ∧ fields.get? "tree" = some (.arr items)
      ∧ List.Forall₂ TreeEntry.IsWritten entries items

/-! ### From the reply to the plan -/

namespace TreeEntry

variable {config : Config} {limit : Int} {entries : List TreeEntry}

/-- The file that an entry stands for. -/
def listed (e : TreeEntry) : ListedFile := ⟨some e.path, e.sizeValue⟩

/-- An object that stands for an entry is read as its file, if it is one. -/
theorem IsWritten.listedFile?_eq {e : TreeEntry} {item : Json} (h : e.IsWritten item) :
    listedFile? item = some (if e.isBlob then some e.listed else none) := by
  obtain ⟨fields, rfl, htype, hpath, hsize⟩ := h
  have hkind : ((fields.get? "type").bind Json.str? == some "blob") = e.isBlob := by
    rw [htype]
    rfl
  simp only [listedFile?, hkind, hpath, hsize]
  cases e.isBlob <;> rfl

/-- Objects that stand for entries are read as the files among them. -/
theorem listedFiles?_eq {fields : Fields} {items : List Json}
    (htree : fields.get? "tree" = some (.arr items))
    (hitems : List.Forall₂ IsWritten entries items) :
    listedFiles? fields = some ((blobs entries).map listed) := by
  have hmap : items.mapM listedFile?
      = some (entries.map fun e => if e.isBlob then some e.listed else none) := by
    clear htree
    induction hitems with
    | nil => rfl
    | cons h _ ih => simp [List.mapM_cons, h.listedFile?_eq, ih]
  have hfilter : (entries.map fun e => if e.isBlob then some e.listed else none).filterMap id
      = (blobs entries).map listed := by
    rw [List.filterMap_map, blobs, ← List.filterMap_eq_filter, List.map_filterMap]
    congr 1
    funext e
    by_cases he : e.isBlob = true <;> simp [Option.guard, he]
  simp only [listedFiles?, entriesOf?, htree, Option.bind_some, hmap, hfilter]

/-- Two integers compare as their units do. -/
theorem atMostInt_int (n limit : Int) : (Number.int n).atMostInt limit = decide (n ≤ limit) := by
  have hpos : (0 : Int) < Binary64.unitsOfOne := by
    have hpow : ∀ n, 0 < Nat.pow 2 n := Nat.two_pow_pos
    unfold Binary64.unitsOfOne
    exact Int.natCast_pos.mpr (hpow Binary64.unitBits)
  simp only [Number.atMostInt, Number.units?, Binary64.unitsOfInt]
  exact decide_eq_decide.mpr (Int.mul_le_mul_right hpos)

/-- The size of an entry can be compared. -/
theorem sizeFits?_sizeValue (e : TreeEntry) (limit : Int) :
    sizeFits? limit e.sizeValue = some (e.fits limit) := by
  unfold sizeFits? sizeValue fits
  cases e.size with
  | none => rfl
  | some n =>
    by_cases hn : n = 0
    · simp [hn, Json.holds]
    · simp [hn, Json.holds, Number.ofJson?, atMostInt_int]

/-- So the files that are not too large are found. -/
theorem fitting?_map_listed (limit : Int) (es : List TreeEntry) :
    fitting? limit (es.map listed) = some ((es.filter (·.fits limit)).map listed) := by
  induction es with
  | nil => rfl
  | cons e rest ih =>
    have hsize : sizeFits? limit e.listed.size = some (e.fits limit) := e.sizeFits?_sizeValue limit
    simp only [List.map_cons, fitting?, hsize, ih, List.filter_cons]
    cases e.fits limit <;> rfl

/-- The files that a scan may take. -/
theorem eligible?_blobs (hlimit : config.maxFileBytes? = some limit) (entries : List TreeEntry) :
    eligible? config ((blobs entries).map listed)
      = some ((eligible config limit entries).map listed) := by
  have hallowed : ((fun file => file.isAllowed config) ∘ listed)
      = fun e : TreeEntry => isWantedPath config (FilePath.parse e.path) := by
    funext e
    simp only [Function.comp_apply, ListedFile.isAllowed, listed, Option.getD_some]
  have hcomm : ∀ e : TreeEntry, (e.fits limit && isWantedPath config (FilePath.parse e.path))
      = (isWantedPath config (FilePath.parse e.path) && e.fits limit) :=
    fun e => Bool.and_comm _ _
  rw [eligible?, hlimit, Option.bind_some, List.filter_map, hallowed, fitting?_map_listed,
    List.filter_filter]
  simp only [hcomm, eligible]

/-- Each of them has a path. -/
theorem mapM_path_listed (es : List TreeEntry) :
    (es.map listed).mapM ListedFile.path = some (es.map (·.path)) := by
  induction es with
  | nil => rfl
  | cons e rest ih =>
    have hpath : e.listed.path = some e.path := rfl
    simp [List.mapM_cons, hpath, ih]

end TreeEntry

/-- **The plan.** All files are counted, those that a scan takes are downloaded, and the cap is hit
    if it might take more. -/
theorem planOf_of_lists {config : Config} {mode : ScanMode} {reply : TreeReply} {limit : Int}
    {entries : List TreeEntry} (hreply : reply.Lists entries)
    (hlimit : config.maxFileBytes? = some limit) :
    planOf config mode reply = .ok
      ⟨(TreeEntry.blobs entries).length, TreeEntry.selected config mode limit entries,
        decide (config.maxFiles mode < (TreeEntry.eligible config limit entries).length)⟩ := by
  obtain ⟨status, reason, fields, items, rfl, hstatus, htree, hitems⟩ := hreply
  have hfields : (TreeReply.answered status reason (some (.obj fields))).fields = .ok fields := by
    have hfound : status ≠ 404 := by omega
    have hgood : ¬ 400 ≤ status := by omega
    simp only [TreeReply.fields, if_neg hfound, if_neg hgood]
  have hplan : downloadPlan? config mode fields = some
      ⟨(TreeEntry.blobs entries).length, TreeEntry.selected config mode limit entries,
        decide (config.maxFiles mode < (TreeEntry.eligible config limit entries).length)⟩ := by
    simp only [downloadPlan?, TreeEntry.listedFiles?_eq htree hitems,
      TreeEntry.eligible?_blobs hlimit, ← List.map_take, TreeEntry.mapM_path_listed,
      Option.bind_eq_bind, Option.bind_some, List.length_map, TreeEntry.selected]
    rfl
  simp only [planOf, hfields, hplan]

end PlainScan

import PlainScan.Proofs.FileTree.Visits

namespace PlainScan

/-!
# The stack of a walk

A walk keeps the directories that wait on a stack.  What it has still to visit at any moment is what
is visited inside of these, one after another; so in the end it has made the visits of the tree, up
to the first that came too late.

* `Deadline.cut` — the visits in time.
* `Passage.through_eq` — what is met in one directory.
* `PendingDirectory.visits` — what is visited inside of a directory on the stack.
* `Directory.walkStack_eq`, `Directory.walk_eq` — what a walk comes upon.
* `Directory.mem_files_walk_iff` — which files these are if no deadline cuts it;
  `Directory.nodup_files_walk` — none of them twice.
-/

/-! ### Visits in time -/

/-- The visits in time, counted from `number` on, and whether one came too late. -/
def Deadline.cut (d : Deadline) : Nat → List Visit → List Visit × Bool
  | _, [] => ([], false)
  | number, v :: rest =>
    if d.isPast number then ([], true)
    else
      let (inTime, late) := cut d (number + 1) rest
      (v :: inTime, late)

theorem Deadline.cut_cons_of_late {d : Deadline} {number : Nat} (h : d.isPast number = true)
    (v : Visit) (rest : List Visit) : d.cut number (v :: rest) = ([], true) := by
  rw [cut, if_pos h]

theorem Deadline.cut_cons {d : Deadline} {number : Nat} (h : d.isPast number = false)
    (v : Visit) (rest : List Visit) :
    d.cut number (v :: rest) = (v :: (d.cut (number + 1) rest).1, (d.cut (number + 1) rest).2) := by
  rw [cut, if_neg (by rw [h]; exact Bool.false_ne_true)]

/-- After visits that were all in time the counting goes on. -/
theorem Deadline.cut_append (d : Deadline) (number : Nat) (visits more : List Visit) :
    d.cut number (visits ++ more) =
      if (d.cut number visits).2 then d.cut number visits
      else ((d.cut number visits).1 ++ (d.cut (number + visits.length) more).1,
        (d.cut (number + visits.length) more).2) := by
  induction visits generalizing number with
  | nil => rfl
  | cons v rest ih =>
    cases h : d.isPast number with
    | true => rw [List.cons_append, cut_cons_of_late h, cut_cons_of_late h, if_pos rfl]
    | false =>
      rw [List.cons_append, cut_cons h, cut_cons h, ih, List.length_cons,
        Nat.add_assoc number 1, Nat.add_comm 1]
      split <;> rfl

/-- Until one comes too late all visits are made. -/
theorem Deadline.cut_eq {d : Deadline} {number : Nat} {visits : List Visit}
    (h : (d.cut number visits).2 = false) : (d.cut number visits).1 = visits := by
  induction visits generalizing number with
  | nil => rfl
  | cons v rest ih =>
    rw [cut] at h ⊢
    split at h
    · cases h
    · rename_i htime
      rw [if_neg htime]
      show v :: (d.cut (number + 1) rest).1 = v :: rest
      rw [ih h]

/-- The visits in time are the first ones. -/
theorem Deadline.cut_fst_prefix (d : Deadline) (number : Nat) (visits : List Visit) :
    (d.cut number visits).1 <+: visits := by
  induction visits generalizing number with
  | nil => exact List.prefix_rfl
  | cons v rest ih =>
    cases h : d.isPast number with
    | true =>
      rw [cut_cons_of_late h]
      exact List.nil_prefix
    | false =>
      rw [cut_cons h]
      exact List.cons_prefix_cons.mpr ⟨rfl, ih (number + 1)⟩

/-- If none comes too late the end is reached. -/
theorem Deadline.cut_snd {d : Deadline} (h : ∀ visit, d.isPast visit = false) (number : Nat)
    (visits : List Visit) : (d.cut number visits).2 = false := by
  induction visits generalizing number with
  | nil => rfl
  | cons v rest ih =>
    have htime : ¬ d.isPast number = true := by simp [h number]
    rw [cut, if_neg htime]
    exact ih (number + 1)

/-! ### One directory -/

/-- The directory behind an entry, if it is to be gone through. -/
def PendingDirectory.behind? (ignored path : List String) (e : String × FileNode) :
    Option PendingDirectory :=
  match e.2 with
  | .directory entries =>
    if ignored.contains e.1 then none else some ⟨path ++ [e.1], entries⟩
  | _ => none

section Passage

variable (ignored : List String) (deadline : Deadline) (path : List String)

/-- **One directory.** In a directory a walk meets the files of the visits to its entries, up to the
    first that comes too late. -/
theorem Passage.through_eq (number : Nat) (entries : Directory) :
    (through ignored deadline path number entries).files
        = ((deadline.cut number (entries.map (Visit.ofEntry path))).1).filterMap Visit.file?
      ∧ (through ignored deadline path number entries).timedOut
        = (deadline.cut number (entries.map (Visit.ofEntry path))).2 := by
  induction entries generalizing number with
  | nil => exact ⟨rfl, rfl⟩
  | cons e rest ih =>
    obtain ⟨name, node⟩ := e
    obtain ⟨hfiles, htime⟩ := ih (number + 1)
    rw [List.map_cons]
    cases h : deadline.isPast number with
    | true =>
      rw [Deadline.cut_cons_of_late h, through, if_pos h]
      exact ⟨rfl, rfl⟩
    | false =>
      rw [Deadline.cut_cons h, through, if_neg (by rw [h]; exact Bool.false_ne_true), ← htime,
        List.filterMap_cons, ← hfiles]
      -- ignored or not, a directory is no file
      cases node with
      | file content => exact ⟨rfl, rfl⟩
      | link target => exact ⟨rfl, rfl⟩
      | directory entries =>
        dsimp only
        split
        · exact ⟨rfl, rfl⟩
        · exact ⟨rfl, rfl⟩

/-- Unless it is cut there it puts all subdirectories on the stack that are not ignored. -/
theorem Passage.subdirectories_through {number : Nat} {entries : Directory}
    (h : (through ignored deadline path number entries).timedOut = false) :
    (through ignored deadline path number entries).subdirectories
      = entries.filterMap (PendingDirectory.behind? ignored path) := by
  induction entries generalizing number with
  | nil => rfl
  | cons e rest ih =>
    obtain ⟨name, node⟩ := e
    rw [through] at h ⊢
    split at h
    · cases h
    · next htime =>
      rw [if_neg htime, List.filterMap_cons]
      cases node with
      | file content => exact ih h
      | link target => exact ih h
      | directory entries =>
        -- only a directory that is not ignored is put on the stack
        dsimp only [PendingDirectory.behind?] at h ⊢
        split at h
        · next hignored =>
          rw [if_pos hignored, if_pos hignored]
          exact ih h
        · next hignored =>
          rw [if_neg hignored, if_neg hignored]
          exact congrArg (_ :: ·) (ih h)

end Passage

/-! ### The stack -/

/-- What is visited inside of a directory on the stack. -/
def PendingDirectory.visits (ignored : List String) (d : PendingDirectory) : List Visit :=
  FileNode.visitsInside ignored d.path (.directory d.entries.sorted)

namespace FileNode

/-- Sorting first what is in the entries and then the entries is sorting the entries first. -/
theorem mergeSort_sortedEntries (entries : Directory) :
    (sortedEntries entries).mergeSort entryLe = sortedEntries (entries.mergeSort entryLe) := by
  rw [sortedEntries_eq, sortedEntries_eq]
  have hle : ∀ e ∈ entries, ∀ f ∈ entries,
      entryLe e f = entryLe (e.1, e.2.sorted) (f.1, f.2.sorted) := fun _ _ _ _ => rfl
  exact (List.map_mergeSort hle).symm

/-- What is visited inside of an entry is what is visited inside of its directory on the stack. -/
theorem visitsThrough_sorted (ignored path : List String) (e : String × FileNode) :
    visitsThrough ignored path (e.1, e.2.sorted)
      = ((PendingDirectory.behind? ignored path e).map
          (PendingDirectory.visits ignored)).getD [] := by
  obtain ⟨name, node⟩ := e
  cases node with
  | file content => simp [visitsThrough, sorted, visitsInside_file, PendingDirectory.behind?]
  | link target => simp [visitsThrough, sorted, visitsInside_link, PendingDirectory.behind?]
  | directory entries =>
    simp only [visitsThrough, PendingDirectory.behind?, sorted]
    split <;> rfl

end FileNode

namespace PendingDirectory

/-- The visits inside of the subdirectories that are put on the stack. -/
theorem flatMap_visits_behind? (ignored path : List String) (entries : Directory) :
    (entries.filterMap (behind? ignored path)).flatMap (visits ignored)
      = (FileNode.sortedEntries entries).flatMap (FileNode.visitsThrough ignored path) := by
  induction entries with
  | nil => rfl
  | cons e rest ih =>
    rw [List.filterMap_cons, FileNode.sortedEntries_eq, List.map_cons, List.flatMap_cons,
      ← FileNode.sortedEntries_eq, ← ih, FileNode.visitsThrough_sorted]
    cases behind? ignored path e <;> rfl

/-- Inside of a directory on the stack all entries are visited in the order of their names, and
    then what is inside of the subdirectories that it puts on the stack. -/
theorem visits_eq (ignored : List String) (d : PendingDirectory) :
    d.visits ignored = (d.entries.mergeSort FileNode.entryLe).map (Visit.ofEntry d.path)
      ++ ((d.entries.mergeSort FileNode.entryLe).filterMap (behind? ignored d.path)).flatMap
          (visits ignored) := by
  rw [visits, FileNode.visitsInside_directory, Directory.sorted, FileNode.mergeSort_sortedEntries,
    ← flatMap_visits_behind?]
  congr 1
  rw [FileNode.sortedEntries_eq, List.map_map]
  exact List.map_congr_left fun e _ => FileNode.ofEntry_sorted d.path e

end PendingDirectory

/-! ### Walks -/

namespace Directory

variable {root : Directory} {ignored : List String} {deadline : Deadline}

/-- If the deadline passes in the directory on top the walk ends there. -/
theorem walkStack_cons_of_late {number : Nat} {here : PendingDirectory}
    {stack : List PendingDirectory}
    (h : (deadline.cut number ((here.entries.mergeSort FileNode.entryLe).map
      (Visit.ofEntry here.path))).2 = true) :
    walkStack ignored deadline number (here :: stack) =
      ⟨((deadline.cut number ((here.entries.mergeSort FileNode.entryLe).map
        (Visit.ofEntry here.path))).1).filterMap Visit.file?, true⟩ := by
  obtain ⟨hfiles, htime⟩ := Passage.through_eq ignored deadline here.path number
    (here.entries.mergeSort FileNode.entryLe)
  rw [← htime] at h
  simp only [walkStack, h, if_true, hfiles]

/-- **One step.** Otherwise the walk comes upon the files of that directory, and then its
    subdirectories are on the stack in its place. -/
theorem walkStack_cons {number : Nat} {here : PendingDirectory} {stack : List PendingDirectory}
    (h : (deadline.cut number ((here.entries.mergeSort FileNode.entryLe).map
      (Visit.ofEntry here.path))).2 = false) :
    walkStack ignored deadline number (here :: stack) =
      let visits := (here.entries.mergeSort FileNode.entryLe).map (Visit.ofEntry here.path)
      let rest := walkStack ignored deadline (number + visits.length)
        ((here.entries.mergeSort FileNode.entryLe).filterMap
          (PendingDirectory.behind? ignored here.path) ++ stack)
      ⟨visits.filterMap Visit.file? ++ rest.files, rest.timedOut⟩ := by
  obtain ⟨hfiles, htime⟩ := Passage.through_eq ignored deadline here.path number
    (here.entries.mergeSort FileNode.entryLe)
  rw [Deadline.cut_eq h] at hfiles
  rw [← htime] at h
  simp only [walkStack, h, hfiles, Bool.false_eq_true, if_false, PendingDirectory.push_eq,
    Passage.subdirectories_through ignored deadline here.path h, List.length_map]

/-- **The stack.** From any stack on a walk comes upon the files of what is visited inside of the
    directories on it, one after another, up to the first visit that comes too late. -/
theorem walkStack_eq (ignored : List String) (deadline : Deadline) (number : Nat)
    (stack : List PendingDirectory) :
    walkStack ignored deadline number stack =
      ⟨((deadline.cut number (stack.flatMap (PendingDirectory.visits ignored))).1).filterMap
          Visit.file?,
        (deadline.cut number (stack.flatMap (PendingDirectory.visits ignored))).2⟩ := by
  -- along the steps of the walk: what is put on the stack is visited before what was there
  induction number, stack using walkStack.induct ignored deadline with
  | case1 number =>
    rw [walkStack]
    rfl
  | case2 number here stack entries passage hlate =>
    -- the clock runs out in this directory, and nothing on the stack is visited
    have hcut : (deadline.cut number (entries.map (Visit.ofEntry here.path))).2 = true :=
      (Passage.through_eq ignored deadline here.path number entries).2.symm.trans hlate
    rw [walkStack_cons_of_late hcut, List.flatMap_cons, PendingDirectory.visits_eq,
      List.append_assoc, Deadline.cut_append, if_pos hcut, hcut]
  | case3 number here stack entries passage hlate ih =>
    have htime : passage.timedOut = false := by rwa [Bool.not_eq_true] at hlate
    have hcut : (deadline.cut number (entries.map (Visit.ofEntry here.path))).2 = false :=
      (Passage.through_eq ignored deadline here.path number entries).2.symm.trans htime
    have hpush : PendingDirectory.push stack passage.subdirectories
        = entries.filterMap (PendingDirectory.behind? ignored here.path) ++ stack := by
      rw [PendingDirectory.push_eq]
      exact congrArg (· ++ stack)
        (Passage.subdirectories_through ignored deadline here.path htime)
    rw [hpush, List.flatMap_append, ← List.length_map (Visit.ofEntry here.path)] at ih
    rw [walkStack_cons hcut, List.flatMap_cons, PendingDirectory.visits_eq, List.append_assoc,
      Deadline.cut_append, hcut, if_neg Bool.false_ne_true, Deadline.cut_eq hcut,
      List.filterMap_append]
    dsimp only
    rw [ih]

/-- **The walk.** A walk comes upon the files of the visits of a tree, up to the first visit that
    comes too late. -/
theorem walk_eq (root : Directory) (ignored : List String) (deadline : Deadline) :
    root.walk ignored deadline =
      ⟨((deadline.cut 1 (root.visits ignored)).1).filterMap Visit.file?,
        (deadline.cut 1 (root.visits ignored)).2⟩ := by
  rw [walk, walkStack_eq, List.flatMap_singleton]
  rfl

/-- A deadline that never passes cuts no walk. -/
theorem timedOut_of_never (root : Directory) (ignored : List String)
    (h : ∀ visit, deadline.isPast visit = false) :
    (root.walk ignored deadline).timedOut = false := by
  rw [walk_eq]
  exact deadline.cut_snd h 1 (root.visits ignored)

/-- A walk that is not cut comes upon the files of all visits, in order. -/
theorem files_walk (htime : (root.walk ignored deadline).timedOut = false) :
    (root.walk ignored deadline).files = (root.visits ignored).filterMap Visit.file? := by
  rw [walk_eq] at htime ⊢
  exact congrArg (List.filterMap Visit.file?) (Deadline.cut_eq htime)

/-- **Once each.** A walk comes upon no file twice, whether it is cut or not. -/
theorem nodup_files_walk (hroot : (FileNode.directory root).Throughout FileNode.NamesDiffer)
    (ignored : List String) (deadline : Deadline) :
    ((root.walk ignored deadline).files.map WalkedFile.path).Nodup := by
  have hvisits : ((root.visits ignored).map Visit.path).Nodup :=
    ((root.perm_visits ignored).map Visit.path).nodup_iff.mpr (FileNode.nodup_visitsInside hroot)
  have hpaths : (deadline.cut 1 (root.visits ignored)).1.Pairwise
      fun one other => one.path ≠ other.path :=
    (List.pairwise_map.mp hvisits).sublist (deadline.cut_fst_prefix 1 _).sublist
  rw [walk_eq]
  refine List.pairwise_map.mpr (hpaths.filterMap Visit.file? ?_)
  intro one other hne f hf g hg hsame
  obtain ⟨bytes, -, rfl⟩ := Option.map_eq_some_iff.mp hf
  obtain ⟨bytes', -, rfl⟩ := Option.map_eq_some_iff.mp hg
  exact hne (FilePath.mk.inj hsame).2

end Directory

/-! ### A clock -/

namespace Sample

/-- A clock that stands still. -/
def unhurried : Deadline := ⟨.int 0, .int 1⟩

theorem unhurried_isPast (visit : Nat) : unhurried.isPast visit = false := by
  have hpos : (0 : Int) ≤ Binary64.unitsOfOne := Int.natCast_nonneg _
  simp only [Deadline.isPast, unhurried, Number.timesExceeds, Number.units?, Binary64.unitsOfInt,
    Int.zero_mul, Int.one_mul, Int.mul_zero, decide_eq_false_iff_not]
  omega

end Sample

end PlainScan

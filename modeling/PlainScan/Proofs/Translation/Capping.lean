import Mathlib.Data.List.FinRange
import PlainScan.Proofs.Translation.Accounts

namespace PlainScan

/-!
# The cap on findings

If there are too many findings, the gravest are kept.  Findings may be equal, so what is kept and
what is dropped is told by places in the list: there is one order of all places, the gravest first
and equally grave ones as they stand, and a first part of it is kept.

* `GoesBefore` — the order of places; `inOrder` — all places in this order.
* `keepGravest_eq` — the findings at the first places are kept.
* `CappedFindings.IsCapOf` — what a cap leaves of some findings; `keepGravest_isCapOf`.
-/

/-! ### The order of places -/

section Places

variable {findings : List RawFinding}

/-- The finding at one place goes before that at another: it is graver, or it is as grave and comes
    earlier. -/
def GoesBefore (findings : List RawFinding) (i j : Fin findings.length) : Prop :=
  findings[j].severity < findings[i].severity
    ∨ findings[i].severity = findings[j].severity ∧ i < j

/-- Whether a finding is at least as grave as another one. -/
def isAsGrave (a b : RawFinding) : Bool := decide (b.severity.rank ≤ a.severity.rank)

theorem isAsGrave_trans (a b c : RawFinding) (h : isAsGrave a b = true)
    (h' : isAsGrave b c = true) : isAsGrave a c = true := by
  simp only [isAsGrave, decide_eq_true_eq] at h h' ⊢
  exact Nat.le_trans h' h

theorem isAsGrave_total (a b : RawFinding) : (isAsGrave a b || isAsGrave b a) = true := by
  simp only [isAsGrave, Bool.or_eq_true, decide_eq_true_eq]
  exact Nat.le_total _ _

/-- The finding at a place together with the place. -/
def numbered (findings : List RawFinding) (i : Fin findings.length) : RawFinding × Nat :=
  (findings[i], i)

/-- Whether a place stands before another one, or is the same. -/
def standsBefore (findings : List RawFinding) (i j : Fin findings.length) : Bool :=
  List.zipIdxLE isAsGrave (numbered findings i) (numbered findings j)

/-- All places, those of graver findings first and those of equally grave ones as they are. -/
def inOrder (findings : List RawFinding) : List (Fin findings.length) :=
  (List.finRange findings.length).mergeSort (standsBefore findings)

/-- Every place is there once. -/
theorem inOrder_perm (findings : List RawFinding) :
    (inOrder findings).Perm (List.finRange findings.length) :=
  List.mergeSort_perm _ _

/-- The findings with their numbers are the numbered findings of all places. -/
theorem map_numbered (findings : List RawFinding) :
    (List.finRange findings.length).map (numbered findings) = findings.zipIdx := by
  apply List.ext_getElem
  · simp
  · intro i h h'
    simp [numbered]

/-- **Stability.** Sorted by severity the findings are those of all places in order. -/
theorem map_inOrder (findings : List RawFinding) :
    (inOrder findings).map (fun i => findings[i]) = findings.mergeSort isAsGrave := by
  have hsorted : (inOrder findings).map (numbered findings)
      = findings.zipIdx.mergeSort (List.zipIdxLE isAsGrave) := by
    rw [← map_numbered]
    exact List.map_mergeSort fun _ _ _ _ => rfl
  calc (inOrder findings).map (fun i => findings[i])
      = ((inOrder findings).map (numbered findings)).map Prod.fst := by
        rw [List.map_map]
        rfl
    _ = findings.mergeSort isAsGrave := by
        rw [hsorted]
        exact List.mergeSort_zipIdx

/-- The order of findings with numbers: severity decides, and then the number. -/
theorem of_zipIdxLE {a b : RawFinding × Nat} (h : List.zipIdxLE isAsGrave a b = true) :
    b.1.severity < a.1.severity ∨ a.1.severity = b.1.severity ∧ a.2 ≤ b.2 := by
  unfold List.zipIdxLE isAsGrave at h
  by_cases hle : b.1.severity.rank ≤ a.1.severity.rank
  · by_cases hge : a.1.severity.rank ≤ b.1.severity.rank
    · refine .inr ⟨Severity.rank_injective (Nat.le_antisymm hge hle), ?_⟩
      simpa [hle, hge] using h
    · exact .inl (Nat.lt_of_not_le hge)
  · simp [hle] at h

/-- Of two different places, the one that stands before the other goes before it. -/
theorem goesBefore_of_standsBefore {i j : Fin findings.length} (hne : i ≠ j)
    (h : standsBefore findings i j = true) : GoesBefore findings i j := by
  rcases of_zipIdxLE h with hlt | ⟨heq, hplace⟩
  · exact .inl hlt
  · exact .inr ⟨heq, Fin.lt_def.mpr (Nat.lt_of_le_of_ne hplace (Fin.val_ne_of_ne hne))⟩

/-- All places are in order. -/
theorem pairwise_inOrder (findings : List RawFinding) :
    (inOrder findings).Pairwise (GoesBefore findings) := by
  have hsorted : (inOrder findings).Pairwise fun i j => standsBefore findings i j = true :=
    List.pairwise_mergeSort
      (fun i j k => List.zipIdxLE_trans isAsGrave_trans (numbered findings i)
        (numbered findings j) (numbered findings k))
      (fun i j => List.zipIdxLE_total isAsGrave_total (numbered findings i)
        (numbered findings j)) _
  have hnodup : (inOrder findings).Nodup :=
    (inOrder_perm findings).nodup_iff.mpr (List.nodup_finRange _)
  exact (List.Pairwise.and hnodup hsorted).imp fun h => goesBefore_of_standsBefore h.1 h.2

end Places

/-! ### What is kept -/

/-- If there are too many findings, those at the first places in order are kept. -/
theorem findings_keepGravest {findings : List RawFinding} {limit : Nat}
    (h : limit < findings.length) :
    (keepGravest findings limit).findings
      = ((inOrder findings).take limit).map fun i => findings[i] := by
  rw [keepGravest, if_neg (Nat.not_le.mpr h), List.map_take, map_inOrder]
  rfl

/-- What a cap leaves of some findings. -/
structure CappedFindings.IsCapOf (c : CappedFindings) (findings : List RawFinding)
    (limit : Nat) : Prop where
  length_eq : c.findings.length = min findings.length limit
  countBefore_eq : c.countBefore = findings.length
  /-- No finding is kept more often than it is there. -/
  subperm : c.findings.Subperm findings
  /-- Few findings are left as they are. -/
  few : findings.length ≤ limit → c.findings = findings ∧ c.truncated = false
  /-- Of too many findings some are dropped, and which ones is told by their places. -/
  many : limit < findings.length → c.truncated = true ∧
    ∃ kept dropped : List (Fin findings.length),
      (kept ++ dropped).Perm (List.finRange findings.length)
      ∧ c.findings = kept.map (fun i => findings[i])
      ∧ c.findings.Pairwise (fun f g => g.severity ≤ f.severity)
      ∧ kept.Pairwise (fun i j => findings[i].severity = findings[j].severity → i < j)
      ∧ ∀ i ∈ kept, ∀ j ∈ dropped, findings[j].severity ≤ findings[i].severity
        ∧ (findings[i].severity = findings[j].severity → i < j)

/-- What goes before is at least as grave, and earlier if it is as grave. -/
theorem GoesBefore.spec {findings : List RawFinding} {i j : Fin findings.length}
    (h : GoesBefore findings i j) : findings[j].severity ≤ findings[i].severity
      ∧ (findings[i].severity = findings[j].severity → i < j) := by
  rcases h with hlt | ⟨heq, hplace⟩
  · refine ⟨Nat.le_of_lt hlt, fun heq => absurd hlt ?_⟩
    rw [heq]
    exact Nat.lt_irrefl _
  · exact ⟨Nat.le_of_eq (congrArg Severity.rank heq.symm), fun _ => hplace⟩

/-- **The cap.** At most `limit` findings are kept, none of them more often than it is there.  Few
    findings stay as they are.  Of too many the gravest are kept in the order of their severity,
    equally grave ones in the order in which they come, and of these the earliest ones. -/
theorem keepGravest_isCapOf (findings : List RawFinding) (limit : Nat) :
    (keepGravest findings limit).IsCapOf findings limit := by
  refine ⟨length_keepGravest findings limit, countBefore_keepGravest findings limit, ?_, ?_, ?_⟩
  · by_cases h : findings.length ≤ limit
    · rw [keepGravest_of_le h]
    · -- of too many the first ones are taken, in another order
      rw [keepGravest, if_neg h]
      exact (List.take_sublist _ _).subperm.trans (List.mergeSort_perm _ _).subperm
  · intro h
    refine ⟨keepGravest_of_le h, ?_⟩
    rw [← Bool.not_eq_true, truncated_keepGravest_iff]
    exact Nat.not_lt.mpr h
  · intro h
    -- what is kept stands before what is dropped, and it is in order itself
    have hsplit := List.take_append_drop limit (inOrder findings)
    have horder := pairwise_inOrder findings
    rw [← hsplit, List.pairwise_append] at horder
    obtain ⟨hkept, -, hacross⟩ := horder
    refine ⟨(truncated_keepGravest_iff findings limit).mpr h, (inOrder findings).take limit,
      (inOrder findings).drop limit, ?_, findings_keepGravest h, ?_, ?_, ?_⟩
    · rw [hsplit]
      exact inOrder_perm findings
    · rw [findings_keepGravest h, List.pairwise_map]
      exact hkept.imp fun hbefore => hbefore.spec.1
    · exact hkept.imp fun hbefore => hbefore.spec.2
    · intro i hi j hj
      exact (hacross i hi j hj).spec

end PlainScan

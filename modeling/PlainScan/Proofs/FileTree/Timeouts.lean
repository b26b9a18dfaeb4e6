import Mathlib.Data.List.Basic
import PlainScan.Proofs.FileTree.Stack

namespace PlainScan

/-!
# Shorter and longer timeouts

A timeout takes away the last visits of a walk and changes nothing before.  The clock is read before
every visit, so the visits are counted, not the files.

* `Number.AtMost` — the exact order of numbers; `Deadline.isPast_iff`, `Deadline.isPast_of_atMost` —
  a visit that comes too late also comes too late for a shorter timeout.
* `Deadline.cut_fst_eq`, `Deadline.cut_snd_iff` — the visits before the first that comes too late.
* `Directory.files_walk_cut`, `Directory.timedOut_walk_iff` — what a walk comes upon before that.
* `Directory.files_walk_prefix` — with a longer timeout a walk goes on where it was cut.
-/

/-! ### Numbers and timeouts -/

namespace Number

/-- The exact order of numbers; what is not a number is neither above nor below any. -/
inductive AtMost : Number → Number → Prop
  | units {a b : Number} {s t : Int} (one : a.units? = some s) (other : b.units? = some t)
      (h : s ≤ t) : AtMost a b
  | infinite {a : Number} (h : a ≠ .real .nan) : AtMost a (.real (.infinite false))
  | negative {b : Number} (h : b ≠ .real .nan) : AtMost (.real (.infinite true)) b

end Number

namespace Deadline

variable {step timeout longer : Number}

/-- A visit comes too late if as many steps of the clock as its number exceed the timeout. -/
theorem isPast_iff {s t : Int} (hstep : step.units? = some s) (htimeout : timeout.units? = some t)
    (visit : Nat) : isPast ⟨step, timeout⟩ visit = true ↔ t < visit * s := by
  simp only [isPast, Number.timesExceeds, hstep, htimeout, decide_eq_true_eq, gt_iff_lt]

/-- So it is with whole numbers. -/
theorem isPast_int (s t : Int) (visit : Nat) :
    isPast ⟨.int s, .int t⟩ visit = decide (t < visit * s) := by
  have hpos : (0 : Int) < Binary64.unitsOfOne := by
    unfold Binary64.unitsOfOne
    generalize Binary64.unitBits = bits
    exact Int.natCast_pos.mpr (Nat.two_pow_pos bits)
  rw [Bool.eq_iff_iff, isPast_iff rfl rfl, decide_eq_true_eq, Binary64.unitsOfInt,
    Binary64.unitsOfInt, ← Int.mul_assoc]
  exact Int.mul_lt_mul_right hpos

/-- No visit comes too late for an infinite timeout. -/
theorem isPast_infinite (visit : Nat) :
    isPast ⟨step, .real (.infinite false)⟩ visit = false := by
  unfold isPast Number.timesExceeds
  cases step.units? <;> rfl

/-- All visits come too late for a timeout below all numbers. -/
theorem isPast_negative (visit : Nat) : isPast ⟨step, .real (.infinite true)⟩ visit = true := by
  unfold isPast Number.timesExceeds
  cases step.units? <;> rfl

/-- **Timeouts.** What comes too late for a timeout comes too late for a shorter one. -/
theorem isPast_of_atMost (h : timeout.AtMost longer) {visit : Nat}
    (hpast : isPast ⟨step, longer⟩ visit = true) : isPast ⟨step, timeout⟩ visit = true := by
  cases h with
  | infinite _ =>
    rw [isPast_infinite] at hpast
    cases hpast
  | negative _ => exact isPast_negative visit
  | units hone hother hle =>
    cases hstep : step.units? with
    | none => simp [isPast, Number.timesExceeds, hstep, hother] at hpast
    | some s =>
      rw [isPast_iff hstep hone]
      rw [isPast_iff hstep hother] at hpast
      exact Int.lt_of_le_of_lt hle hpast

/-! ### Visits in time -/

/-- The visits in time are those before the first that comes too late. -/
theorem cut_fst_eq (d : Deadline) (number : Nat) (visits : List Visit) :
    (d.cut number visits).1
      = ((visits.zipIdx number).takeWhile fun v => !d.isPast v.2).map (·.1) := by
  induction visits generalizing number with
  | nil => rfl
  | cons v rest ih =>
    rw [List.zipIdx_cons, List.takeWhile_cons]
    cases h : d.isPast number with
    | true =>
      rw [cut_cons_of_late h]
      rfl
    | false =>
      rw [cut_cons h, ih]
      rfl

/-- One comes too late if there is any visit whose number does. -/
theorem cut_snd_iff (d : Deadline) (number : Nat) (visits : List Visit) :
    (d.cut number visits).2 = true ↔
      ∃ n, number ≤ n ∧ n < number + visits.length ∧ d.isPast n = true := by
  induction visits generalizing number with
  | nil =>
    refine iff_of_false Bool.false_ne_true ?_
    rintro ⟨n, hle, hlt, -⟩
    exact absurd hle (Nat.not_le.mpr hlt)
  | cons v rest ih =>
    have hlength : number + (v :: rest).length = number + 1 + rest.length := by
      rw [List.length_cons]
      omega
    rw [hlength]
    cases h : d.isPast number with
    | true =>
      rw [cut_cons_of_late h]
      exact iff_of_true rfl ⟨number, Nat.le_refl _, by omega, h⟩
    | false =>
      rw [cut_cons h, ih]
      refine exists_congr fun n => ⟨fun hn => ⟨by omega, hn.2⟩, fun hn => ⟨?_, hn.2⟩⟩
      -- the first visit is in time, so it is not the one that comes too late
      have hne : n ≠ number := by
        rintro rfl
        exact absurd hn.2.2 (by rw [h]; exact Bool.false_ne_true)
      omega

/-- With a deadline that passes later all these visits are made, and perhaps more. -/
theorem cut_prefix {d later : Deadline} (h : ∀ n, later.isPast n = true → d.isPast n = true)
    (number : Nat) (visits : List Visit) :
    (d.cut number visits).1 <+: (later.cut number visits).1 := by
  induction visits generalizing number with
  | nil => exact List.prefix_rfl
  | cons v rest ih =>
    cases hpast : d.isPast number with
    | true =>
      rw [cut_cons_of_late hpast]
      exact List.nil_prefix
    | false =>
      have hlater : later.isPast number = false := by
        rw [Bool.eq_false_iff]
        intro hlate
        rw [h number hlate] at hpast
        cases hpast
      rw [cut_cons hpast, cut_cons hlater]
      exact List.cons_prefix_cons.mpr ⟨rfl, ih (number + 1)⟩

end Deadline

/-! ### Walks -/

namespace Directory

/-- A walk comes upon the files of the visits before the first that comes too late. -/
theorem files_walk_cut (root : Directory) (ignored : List String) (deadline : Deadline) :
    (root.walk ignored deadline).files
      = (((root.visits ignored).zipIdx 1).takeWhile fun v => !deadline.isPast v.2).filterMap
          fun v => v.1.file? := by
  rw [walk_eq, Deadline.cut_fst_eq, List.filterMap_map]
  rfl

/-- It is cut if any visit to the tree comes too late. -/
theorem timedOut_walk_iff (root : Directory) (ignored : List String) (deadline : Deadline) :
    (root.walk ignored deadline).timedOut = true ↔
      ∃ n, 1 ≤ n ∧ n ≤ (root.visits ignored).length ∧ deadline.isPast n = true := by
  rw [walk_eq, Deadline.cut_snd_iff]
  exact exists_congr fun n => and_congr_right fun _ => and_congr_left fun _ => by omega

/-- **Longer walks.** With a longer timeout a walk comes upon the same files first. -/
theorem files_walk_prefix (root : Directory) (ignored : List String) (step : Number)
    {timeout longer : Number} (h : timeout.AtMost longer) :
    (root.walk ignored ⟨step, timeout⟩).files <+: (root.walk ignored ⟨step, longer⟩).files := by
  rw [walk_eq, walk_eq]
  exact (Deadline.cut_prefix (fun n => Deadline.isPast_of_atMost h) 1 _).filterMap _

end Directory

end PlainScan

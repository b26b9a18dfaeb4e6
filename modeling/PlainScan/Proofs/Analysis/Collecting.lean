import Mathlib.Data.Finset.Card
import Mathlib.Data.List.Nodup
import PlainScan.Analysis.Basic

namespace PlainScan

/-!
# What a collector keeps

A collector decides about each issue when it meets it.  Here its decisions are put together.

* `firstBy` — the items without those whose key was there before; `firstById` — the issues, by
  their identifiers.
* `take_firstById_eq_iff` — when none is left out.
* `Collector.kept_addAll` — from any state, the issues that are new are kept up to the cap.
* `Collector.kept_fresh` — a fresh collector keeps the first issues of `firstById`.
* `Collector.collects_firsts` — all that a fresh collector tells in the end.
-/

/-! ### First occurrences of a key -/

section

variable {α κ : Type} [BEq κ]

/-- The items whose key does not occur before them. -/
def firstBy (key : α → κ) : List α → List α
  | [] => []
  | a :: rest => a :: (firstBy key rest).filter fun b => key b != key a

/-- Nothing but the given items is left. -/
theorem mem_of_mem_firstBy {key : α → κ} {a : α} {items : List α} (h : a ∈ firstBy key items) :
    a ∈ items := by
  induction items with
  | nil => exact h
  | cons b rest ih =>
    rw [firstBy, List.mem_cons] at h
    rcases h with rfl | h
    · exact List.mem_cons_self
    · exact List.mem_cons_of_mem b (ih (List.mem_of_mem_filter h))

/-- No key is left twice. -/
theorem nodup_keys_firstBy [LawfulBEq κ] (key : α → κ) (items : List α) :
    ((firstBy key items).map key).Nodup := by
  induction items with
  | nil => exact List.nodup_nil
  | cons a rest ih =>
    rw [firstBy, List.map_cons, List.nodup_cons]
    constructor
    · intro h
      obtain ⟨b, hb, hkey⟩ := List.mem_map.mp h
      have hne := (List.mem_filter.mp hb).2
      rw [bne_iff_ne] at hne
      exact hne hkey
    · exact ih.sublist (List.filter_sublist.map key)

end

/-! ### First occurrences of identifiers -/

/-- The findings whose identifier does not occur before them. -/
def firstById (findings : List RawFinding) : List RawFinding := firstBy RawFinding.id findings

theorem firstById_cons (f : RawFinding) (rest : List RawFinding) :
    firstById (f :: rest) = f :: (firstById rest).filter fun g => g.id != f.id := rfl

/-- Nothing but the given findings is left. -/
theorem mem_of_mem_firstById {f : RawFinding} {findings : List RawFinding}
    (h : f ∈ firstById findings) : f ∈ findings := mem_of_mem_firstBy h

/-- Every identifier is left. -/
theorem exists_mem_firstById {f : RawFinding} {findings : List RawFinding} (h : f ∈ findings) :
    ∃ g ∈ firstById findings, g.id = f.id := by
  induction findings with
  | nil => exact absurd h (List.not_mem_nil)
  | cons a rest ih =>
    by_cases ha : f.id = a.id
    · exact ⟨a, List.mem_cons_self, ha.symm⟩
    · rcases List.mem_cons.mp h with rfl | h
      · exact absurd rfl ha
      · obtain ⟨g, hg, hid⟩ := ih h
        refine ⟨g, List.mem_cons_of_mem a (List.mem_filter.mpr ⟨hg, ?_⟩), hid⟩
        rw [bne_iff_ne, hid]
        exact ha

/-- No identifier is left twice. -/
theorem nodup_ids_firstById (findings : List RawFinding) :
    ((firstById findings).map RawFinding.id).Nodup := nodup_keys_firstBy RawFinding.id findings

/-- What is left is the first with its identifier. -/
theorem find?_of_mem_firstById {f : RawFinding} {findings : List RawFinding}
    (h : f ∈ firstById findings) : findings.find? (fun g => g.id == f.id) = some f := by
  induction findings with
  | nil => exact absurd h List.not_mem_nil
  | cons a rest ih =>
    rw [firstById_cons, List.mem_cons] at h
    rcases h with rfl | h
    · exact List.find?_cons_of_pos (beq_self_eq_true f.id)
    · obtain ⟨hrest, hne⟩ := List.mem_filter.mp h
      have hskip : (a.id == f.id) = false := beq_false_of_ne (bne_iff_ne.mp hne).symm
      simp only [List.find?_cons, hskip]
      exact ih hrest

/-- As many are left as there are distinct identifiers. -/
theorem length_firstById (findings : List RawFinding) :
    (firstById findings).length = (findings.map RawFinding.id).toFinset.card := by
  have hsame : (findings.map RawFinding.id).toFinset
      = ((firstById findings).map RawFinding.id).toFinset := by
    ext id
    simp only [List.mem_toFinset, List.mem_map]
    constructor
    · rintro ⟨f, hf, rfl⟩
      exact exists_mem_firstById hf
    · rintro ⟨f, hf, rfl⟩
      exact ⟨f, mem_of_mem_firstById hf, rfl⟩
  rw [hsame, List.toFinset_card_of_nodup (nodup_ids_firstById findings), List.length_map]

/-- Where no identifier occurs twice all are left. -/
theorem firstById_eq_self {findings : List RawFinding}
    (h : (findings.map RawFinding.id).Nodup) : firstById findings = findings := by
  induction findings with
  | nil => rfl
  | cons f rest ih =>
    rw [List.map_cons, List.nodup_cons] at h
    rw [firstById_cons, ih h.2, List.filter_eq_self.mpr]
    intro g hg
    rw [bne_iff_ne]
    exact fun hsame => h.1 (hsame ▸ List.mem_map_of_mem hg)

/-- Nothing is added. -/
theorem length_firstById_le (findings : List RawFinding) :
    (firstById findings).length ≤ findings.length := by
  induction findings with
  | nil => exact Nat.le_refl 0
  | cons f rest ih =>
    rw [firstById_cons, List.length_cons, List.length_cons]
    exact Nat.succ_le_succ (Nat.le_trans (List.length_filter_le _ _) ih)

/-- What is left of the first findings comes first. -/
theorem firstById_prefix_append (findings more : List RawFinding) :
    firstById findings <+: firstById (findings ++ more) := by
  induction findings with
  | nil => exact List.nil_prefix
  | cons f rest ih =>
    rw [List.cons_append, firstById_cons, firstById_cons, List.cons_prefix_cons]
    exact ⟨rfl, ih.filter _⟩

/-- The first so many findings are what is left exactly if no identifier occurs twice in them. -/
theorem take_firstById_eq_iff (findings : List RawFinding) (count : Nat) :
    (firstById findings).take count = findings.take count ↔
      ((findings.take count).map RawFinding.id).Nodup := by
  constructor
  · intro htake
    rw [← htake, List.map_take]
    exact (nodup_ids_firstById findings).sublist (List.take_sublist _ _)
  · intro hnodup
    have hprefix := firstById_prefix_append (findings.take count) (findings.drop count)
    rw [firstById_eq_self hnodup, List.take_append_drop] at hprefix
    obtain ⟨more, hmore⟩ := hprefix
    by_cases hcount : count ≤ findings.length
    · rw [← hmore, List.take_append_of_le_length, List.take_take, Nat.min_self]
      rw [List.length_take]
      omega
    · -- with fewer findings than that, none is left out
      have hall : findings.take count = findings := List.take_of_length_le (by omega)
      rw [hall] at hnodup
      rw [firstById_eq_self hnodup]

/-- Identifiers can be left out before or after. -/
theorem filter_firstById (findings : List RawFinding) (id : String) :
    (firstById findings).filter (fun g => g.id != id)
      = firstById (findings.filter fun g => g.id != id) := by
  induction findings with
  | nil => rfl
  | cons f rest ih =>
    rw [firstById_cons, List.filter_cons, List.filter_cons]
    by_cases hid : f.id = id
    · subst hid
      simp [List.filter_filter, ← ih]
    · have hne : (f.id != id) = true := bne_iff_ne.mpr hid
      rw [if_pos hne, if_pos hne, firstById_cons, ← ih, List.filter_filter, List.filter_filter]
      simp only [Bool.and_comm]

/-- Findings with the same key may be left out before, if the key tells the identifier. -/
theorem firstById_map_firstBy {α κ : Type} [BEq κ] [LawfulBEq κ] {key : α → κ}
    {finding : α → RawFinding}
    (hkey : ∀ a b, key a = key b → (finding a).id = (finding b).id) (items : List α) :
    firstById ((firstBy key items).map finding) = firstById (items.map finding) := by
  induction items with
  | nil => rfl
  | cons a rest ih =>
    rw [firstBy, List.map_cons, List.map_cons, firstById_cons, firstById_cons, ← ih,
      filter_firstById, filter_firstById, List.filter_map, List.filter_map, List.filter_filter]
    -- what has the key of the first item has its identifier as well
    have hsame : ∀ b, (((fun g : RawFinding => g.id != (finding a).id) ∘ finding) b
          && key b != key a)
        = ((fun g : RawFinding => g.id != (finding a).id) ∘ finding) b := by
      intro b
      by_cases hid : (finding b).id = (finding a).id
      · simp [hid]
      · have hne : key b ≠ key a := fun h => hid (hkey b a h)
        simp [hid, hne]
    simp only [hsame]

/-! ### One issue -/

namespace Collector

/-- Whether an identifier is among those that are kept. -/
def knows (c : Collector) (id : String) : Bool := c.kept.any fun f => f.id == id

/-- An identifier that is known adds nothing, and neither does any where the cap is reached. -/
theorem kept_add_of_dropped {c : Collector} {f : RawFinding}
    (h : c.knows f.id = true ∨ c.cap ≤ c.kept.length) : (c.add f).kept = c.kept := by
  have hc : ((c.kept.any fun g => g.id == f.id) || decide (c.cap ≤ c.kept.length)) = true := by
    rw [Bool.or_eq_true, decide_eq_true_eq]
    exact h
  simp only [add, hc, if_true]

/-- An identifier that is new is kept below the cap. -/
theorem kept_add_of_new {c : Collector} {f : RawFinding} (hnew : c.knows f.id = false)
    (hroom : c.kept.length < c.cap) : (c.add f).kept = c.kept ++ [f] := by
  have hc : ((c.kept.any fun g => g.id == f.id) || decide (c.cap ≤ c.kept.length)) = false := by
    rw [Bool.or_eq_false_iff, decide_eq_false_iff_not]
    exact ⟨hnew, by omega⟩
  simp [add, hc]

/-- With one finding more, its identifier is known as well. -/
theorem knows_of_kept_append {c d : Collector} {f : RawFinding} (h : d.kept = c.kept ++ [f])
    (id : String) : d.knows id = (c.knows id || f.id == id) := by
  simp [knows, h]

/-! ### Many issues -/

/-- The total counts every issue. -/
theorem total_addAll (c : Collector) (findings : List RawFinding) :
    (c.addAll findings).total = c.total + findings.length := by
  induction findings generalizing c with
  | nil => rfl
  | cons f rest ih =>
    have hstep : c.addAll (f :: rest) = (c.add f).addAll rest := rfl
    rw [hstep, ih, total_add, List.length_cons]
    omega

/-- **What is kept.** To the findings of any state those are added whose identifier is new and
    did not come before, as far as there is room. -/
theorem kept_addAll (c : Collector) (findings : List RawFinding) :
    (c.addAll findings).kept
      = c.kept ++ ((firstById findings).filter fun g => !c.knows g.id).take
          (c.cap - c.kept.length) := by
  induction findings generalizing c with
  | nil => simp [addAll, firstById, firstBy]
  | cons f rest ih =>
    have hstep : c.addAll (f :: rest) = (c.add f).addAll rest := rfl
    rw [hstep, ih, cap_add, firstById_cons, List.filter_cons, List.filter_filter]
    by_cases hknown : c.knows f.id = true
    · -- the known identifier is filtered out either way
      have hk := kept_add_of_dropped (Or.inl hknown)
      have hknows : ∀ id, (c.add f).knows id = c.knows id := fun id => by rw [knows, hk, knows]
      have hsame : ∀ g : RawFinding, ((!c.knows g.id) && (g.id != f.id)) = !c.knows g.id := by
        intro g
        by_cases hg : g.id = f.id
        · simp [hg, hknown]
        · simp [hg]
      simp only [hk, hknows, hsame, hknown, Bool.not_true, Bool.false_eq_true, if_false]
    · by_cases hroom : c.kept.length < c.cap
      · -- the issue takes one of the places, and its identifier is known from now on
        have hnew : c.knows f.id = false := by simpa using hknown
        have hk := kept_add_of_new hnew hroom
        have hrest : c.cap - c.kept.length = (c.cap - (c.kept ++ [f]).length) + 1 := by
          rw [List.length_append, List.length_singleton]
          omega
        have hsame : ∀ g : RawFinding,
            (!(c.add f).knows g.id) = ((!c.knows g.id) && (g.id != f.id)) := by
          intro g
          rw [knows_of_kept_append hk, Bool.not_or, bne, BEq.comm]
        simp only [hsame, hk, hnew, Bool.not_false, if_true]
        rw [hrest, List.take_succ_cons, List.append_assoc, List.singleton_append]
      · -- no place is left, here and for what follows
        have hk := kept_add_of_dropped (c := c) (f := f) (Or.inr (by omega))
        have hzero : c.cap - c.kept.length = 0 := by omega
        rw [hk, hzero]
        simp

/-- A fresh collector keeps the first issues with distinct identifiers. -/
theorem kept_fresh (cap : Nat) (findings : List RawFinding) :
    ((Collector.mk cap [] 0).addAll findings).kept = (firstById findings).take cap := by
  rw [kept_addAll]
  simp [knows]

/-- A fresh collector counts the issues. -/
theorem total_fresh (cap : Nat) (findings : List RawFinding) :
    ((Collector.mk cap [] 0).addAll findings).total = findings.length := by
  rw [total_addAll]
  exact Nat.zero_add _

/-- **Collecting.** A fresh collector counts all findings that it is handed.  Of these it keeps the
    first ones without repetitions, as many as the cap lets through: no identifier comes twice, each
    finding is the first with its identifier, and there are as many as there are distinct
    identifiers, unless the cap is less. -/
theorem collects_firsts (cap : Nat) (findings : List RawFinding) :
    let c := (Collector.mk cap [] 0).addAll findings
    c.total = findings.length
      ∧ c.kept = (firstById findings).take cap
      ∧ (c.kept.map RawFinding.id).Nodup
      ∧ (∀ f ∈ c.kept, findings.find? (fun g => g.id == f.id) = some f)
      ∧ c.kept.length = min cap (findings.map RawFinding.id).toFinset.card := by
  intro c
  have hkept : c.kept = (firstById findings).take cap := kept_fresh cap findings
  refine ⟨total_fresh cap findings, hkept, ?_, ?_, ?_⟩
  · rw [hkept, List.map_take]
    exact (nodup_ids_firstById findings).sublist (List.take_sublist _ _)
  · intro f hf
    rw [hkept] at hf
    exact find?_of_mem_firstById (List.mem_of_mem_take hf)
  · rw [hkept, List.length_take, length_firstById]

end Collector

end PlainScan

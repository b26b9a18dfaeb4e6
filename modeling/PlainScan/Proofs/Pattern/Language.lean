import Mathlib.Algebra.BigOperators.Group.List.Basic
import Mathlib.Computability.Language
import Mathlib.Order.Bounds.Basic
import PlainScan.Proofs.Pattern.Search

namespace PlainScan

/-!
# The language of a pattern

A pattern that looks only at the characters it takes stands for a regular language.  From a place it
leads exactly where the texts of this language lead, and a search finds the first place from which
one of them leads on.  So which ends are preferred, and in which order they are tried, decides
neither whether something is found nor where it starts.

* `Cursor.Reads` — a text leads from one place to another.
* `Pattern.language` — the texts that a pattern stands for; `Pattern.isRegular` — whether it looks
  at nothing but them.
* `Pattern.mem_ends_iff` — where a match can end.
* `Pattern.OccursAt` — a text of a language stands at a column; `Pattern.column_find?_iff` — the
  column at which a search finds a pattern is the least of these.
-/

open scoped Computability

/-! ### Reading -/

/-- A text leads from one place to another. -/
def Cursor.Reads (c : Cursor) (text : List Char) (d : Cursor) : Prop :=
  c.after = text ++ d.after ∧ d.before = text.reverse ++ c.before

namespace Cursor

theorem reads_nil_iff {c d : Cursor} : c.Reads [] d ↔ d = c := by
  obtain ⟨before, after⟩ := c
  obtain ⟨before', after'⟩ := d
  simp [Reads, eq_comm, and_comm]

/-- Two texts lead on one after the other. -/
theorem reads_append_iff {c e : Cursor} {text more : List Char} :
    c.Reads (text ++ more) e ↔ ∃ d, c.Reads text d ∧ d.Reads more e := by
  constructor
  · rintro ⟨hafter, hbefore⟩
    refine ⟨⟨text.reverse ++ c.before, more ++ e.after⟩, ⟨?_, rfl⟩, rfl, ?_⟩
    · rw [hafter, List.append_assoc]
    · rw [hbefore, List.reverse_append, List.append_assoc]
  · rintro ⟨d, ⟨hafter, hbefore⟩, hafter', hbefore'⟩
    refine ⟨?_, ?_⟩
    · rw [hafter, hafter', List.append_assoc]
    · rw [hbefore', hbefore, List.reverse_append, List.append_assoc]

/-- A text that leads on is no longer than what follows. -/
theorem Reads.length_eq {c d : Cursor} {text : List Char} (h : c.Reads text d) :
    c.after.length = text.length + d.after.length := by
  rw [h.1, List.length_append]

end Cursor

namespace Pattern

/-! ### Languages -/

/-- The texts of one allowed character. -/
def single (allowed : Char → Bool) : Language Char := {w | ∃ c, allowed c = true ∧ w = [c]}

/-- The texts that a pattern stands for. -/
def language : Pattern → Language Char
  | nothing => 1
  | one allowed => single allowed
  | run allowed least => single allowed ^ least * (single allowed)∗
  | seq first second => language first * language second
  | alt first second => language first + language second
  | star body => (language body)∗
  | opt body => language body + 1
  | absent _ => 1
  | wordEdge => 1

/-- Whether a pattern looks only at the characters that it takes. -/
def isRegular : Pattern → Bool
  | seq first second => isRegular first && isRegular second
  | alt first second => isRegular first && isRegular second
  | star body => isRegular body
  | opt body => isRegular body
  | absent _ => false
  | wordEdge => false
  | _ => true

theorem mem_single_iff {allowed : Char → Bool} {w : List Char} :
    w ∈ single allowed ↔ ∃ c, allowed c = true ∧ w = [c] := Iff.rfl

/-- A number of allowed characters. -/
theorem mem_single_pow_iff {allowed : Char → Bool} {n : Nat} {w : List Char} :
    w ∈ single allowed ^ n ↔ w.length = n ∧ ∀ c ∈ w, allowed c = true := by
  induction n generalizing w with
  | zero =>
    rw [pow_zero, Language.mem_one, List.length_eq_zero_iff]
    constructor
    · rintro rfl
      exact ⟨rfl, by simp⟩
    · exact fun h => h.1
  | succ n ih =>
    rw [pow_succ', Language.mem_mul]
    constructor
    · rintro ⟨_, ⟨c, hc, rfl⟩, rest, hrest, rfl⟩
      obtain ⟨hlength, hall⟩ := ih.mp hrest
      refine ⟨by simp [hlength], ?_⟩
      rw [List.singleton_append, List.forall_mem_cons]
      exact ⟨hc, hall⟩
    · rintro ⟨hlength, hall⟩
      cases w with
      | nil => cases hlength
      | cons c rest =>
        rw [List.forall_mem_cons] at hall
        refine ⟨[c], ⟨c, hall.1, rfl⟩, rest, ih.mpr ⟨?_, hall.2⟩, rfl⟩
        simpa using hlength

/-- Any number of allowed characters. -/
theorem mem_single_kstar_iff {allowed : Char → Bool} {w : List Char} :
    w ∈ (single allowed)∗ ↔ ∀ c ∈ w, allowed c = true := by
  constructor
  · intro h
    rw [Language.mem_kstar_iff_exists_nonempty] at h
    obtain ⟨parts, rfl, hparts⟩ := h
    intro c hc
    obtain ⟨part, hpart, hmem⟩ := List.mem_flatten.mp hc
    obtain ⟨d, hd, rfl⟩ := (hparts part hpart).1
    rwa [List.mem_singleton.mp hmem]
  · intro h
    rw [Language.mem_kstar]
    refine ⟨w.map fun c => [c], (List.flatMap_singleton' w).symm, ?_⟩
    intro part hpart
    obtain ⟨c, hc, rfl⟩ := List.mem_map.mp hpart
    exact ⟨c, h c hc, rfl⟩

/-- A run stands for at least so many allowed characters. -/
theorem mem_language_run_iff {allowed : Char → Bool} {least : Nat} {w : List Char} :
    w ∈ (run allowed least).language ↔ least ≤ w.length ∧ ∀ c ∈ w, allowed c = true := by
  rw [language, Language.mem_mul]
  constructor
  · rintro ⟨first, hfirst, rest, hrest, rfl⟩
    obtain ⟨rfl, hall⟩ := mem_single_pow_iff.mp hfirst
    refine ⟨by simp, fun c hc => ?_⟩
    rcases List.mem_append.mp hc with hc | hc
    · exact hall c hc
    · exact mem_single_kstar_iff.mp hrest c hc
  · rintro ⟨hlength, hall⟩
    refine ⟨w.take least, mem_single_pow_iff.mpr ⟨?_, ?_⟩, w.drop least,
      mem_single_kstar_iff.mpr ?_, List.take_append_drop least w⟩
    · exact List.length_take_of_le hlength
    · exact fun c hc => hall c (List.mem_of_mem_take hc)
    · exact fun c hc => hall c (List.mem_of_mem_drop hc)

/-! ### Ends of a match -/

/-- At the end of a text only the empty run is read. -/
theorem exists_run_nil_iff {allowed : Char → Bool} {least : Nat} {before : List Char} {d : Cursor} :
    (∃ w, (least ≤ w.length ∧ ∀ c ∈ w, allowed c = true) ∧ Cursor.Reads ⟨before, []⟩ w d)
      ↔ least = 0 ∧ d = ⟨before, []⟩ := by
  constructor
  · rintro ⟨w, ⟨hleast, -⟩, hreads⟩
    obtain ⟨rfl, -⟩ := List.append_eq_nil_iff.mp hreads.1.symm
    exact ⟨Nat.le_zero.mp hleast, Cursor.reads_nil_iff.mp hreads⟩
  · rintro ⟨rfl, rfl⟩
    exact ⟨[], ⟨Nat.le_refl 0, by simp⟩, Cursor.reads_nil_iff.mpr rfl⟩

/-- A run is empty, or it takes the next character and is a run from there. -/
theorem exists_run_cons_iff {allowed : Char → Bool} {least : Nat} {before rest : List Char}
    {c : Char} {d : Cursor} :
    (∃ w, (least ≤ w.length ∧ ∀ x ∈ w, allowed x = true)
        ∧ Cursor.Reads ⟨before, c :: rest⟩ w d)
      ↔ (least = 0 ∧ d = ⟨before, c :: rest⟩) ∨ (allowed c = true
        ∧ ∃ w, (least - 1 ≤ w.length ∧ ∀ x ∈ w, allowed x = true)
          ∧ Cursor.Reads ⟨c :: before, rest⟩ w d) := by
  constructor
  · rintro ⟨w, ⟨hleast, hall⟩, hreads⟩
    cases w with
    | nil => exact .inl ⟨Nat.le_zero.mp hleast, Cursor.reads_nil_iff.mp hreads⟩
    | cons x w =>
      rw [List.forall_mem_cons] at hall
      obtain ⟨hafter, hbefore⟩ := hreads
      obtain ⟨rfl, hrest⟩ := List.cons.inj hafter
      rw [List.length_cons] at hleast
      refine .inr ⟨hall.1, w, ⟨by omega, hall.2⟩, hrest, ?_⟩
      rw [hbefore, List.reverse_cons, List.append_assoc, List.singleton_append]
  · rintro (⟨rfl, rfl⟩ | ⟨hc, w, ⟨hleast, hall⟩, hrest, hbefore⟩)
    · exact ⟨[], ⟨Nat.le_refl 0, by simp⟩, Cursor.reads_nil_iff.mpr rfl⟩
    · refine ⟨c :: w, ⟨?_, ?_⟩, congrArg (c :: ·) hrest, ?_⟩
      · rw [List.length_cons]
        omega
      · rw [List.forall_mem_cons]
        exact ⟨hc, hall⟩
      · rw [hbefore, List.reverse_cons, List.append_assoc, List.singleton_append]

/-- A run ends behind any sufficient number of allowed characters. -/
theorem mem_runEnds_iff {allowed : Char → Bool} {least : Nat} {before after : List Char}
    {shorter : List Cursor} {d : Cursor} :
    d ∈ runEnds allowed least before after shorter ↔
      d ∈ shorter ∨ ∃ w, (least ≤ w.length ∧ ∀ c ∈ w, allowed c = true)
        ∧ Cursor.Reads ⟨before, after⟩ w d := by
  induction after generalizing least before shorter with
  | nil =>
    rw [exists_run_nil_iff, runEnds]
    by_cases hleast : least = 0 <;> simp [hleast, or_comm]
  | cons c rest ih =>
    rw [exists_run_cons_iff, runEnds]
    by_cases hc : allowed c = true
    · rw [if_pos hc, ih]
      by_cases hleast : least = 0 <;> simp [hleast, hc, or_assoc, or_left_comm]
    · rw [if_neg hc]
      by_cases hleast : least = 0 <;> simp [hleast, hc, or_comm]

/-- Whatever the number of rounds, what they lead to is behind a repetition of the language. -/
theorem exists_kstar_of_mem_starEnds {round : Cursor → List Cursor} {L : Language Char}
    (hround : ∀ c d, d ∈ round c ↔ ∃ w ∈ L, c.Reads w d) {rounds : Nat} {c d : Cursor}
    (h : d ∈ starEnds round rounds c) : ∃ w ∈ L∗, c.Reads w d := by
  -- every round reads a word of the language, or none is left
  induction rounds generalizing c with
  | zero =>
    rw [starEnds, List.mem_singleton] at h
    exact ⟨[], Language.nil_mem_kstar L, Cursor.reads_nil_iff.mpr h⟩
  | succ rounds ih =>
    rw [starEnds, List.mem_append, List.mem_flatMap, List.mem_singleton] at h
    rcases h with ⟨e, he, hd⟩ | rfl
    · obtain ⟨w, hw, hreads⟩ := (hround c e).mp (List.mem_of_mem_filter he)
      obtain ⟨more, hmore, hreads'⟩ := ih hd
      have hstar : w ++ more ∈ L∗ :=
        mul_kstar_le_kstar (a := L) (Language.append_mem_mul hw hmore)
      exact ⟨w ++ more, hstar, Cursor.reads_append_iff.mpr ⟨e, hreads, hreads'⟩⟩
    · exact ⟨[], Language.nil_mem_kstar L, Cursor.reads_nil_iff.mpr rfl⟩

/-- As many rounds as there are characters lead through words that are not empty, since every round
    moves on. -/
theorem mem_starEnds_of_flatten {round : Cursor → List Cursor} {L : Language Char}
    (hround : ∀ c d, d ∈ round c ↔ ∃ w ∈ L, c.Reads w d) {rounds : Nat} {c d : Cursor}
    (henough : c.after.length ≤ rounds) {parts : List (List Char)}
    (hparts : ∀ part ∈ parts, part ∈ L ∧ part ≠ []) (hreads : c.Reads parts.flatten d) :
    d ∈ starEnds round rounds c := by
  induction parts generalizing c rounds with
  | nil =>
    obtain rfl := Cursor.reads_nil_iff.mp hreads
    cases rounds with
    | zero => exact List.mem_singleton_self _
    | succ rounds => exact List.mem_append_right _ (List.mem_singleton_self _)
  | cons part parts ih =>
    rw [List.forall_mem_cons] at hparts
    obtain ⟨⟨hpart, hne⟩, hrest⟩ := hparts
    rw [List.flatten_cons] at hreads
    obtain ⟨e, hfirst, hmore⟩ := Cursor.reads_append_iff.mp hreads
    -- the first part moves on, so there are rounds left for the others
    have hlength := hfirst.length_eq
    have hpos := List.length_pos_of_ne_nil hne
    cases rounds with
    | zero => omega
    | succ rounds =>
      rw [starEnds, List.mem_append, List.mem_flatMap]
      refine .inl ⟨e, List.mem_filter.mpr ⟨(hround c e).mpr ⟨part, hpart, hfirst⟩, ?_⟩, ?_⟩
      · rw [decide_eq_true_eq]
        omega
      · exact ih (by omega) hrest hmore

/-- Rounds that lead where the texts of a language lead are repeated to where its repetitions
    lead. -/
theorem mem_starEnds_iff {round : Cursor → List Cursor} {L : Language Char}
    (hround : ∀ c d, d ∈ round c ↔ ∃ w ∈ L, c.Reads w d) {rounds : Nat} {c d : Cursor}
    (henough : c.after.length ≤ rounds) :
    d ∈ starEnds round rounds c ↔ ∃ w ∈ L∗, c.Reads w d := by
  constructor
  · exact exists_kstar_of_mem_starEnds hround
  · rintro ⟨w, hw, hreads⟩
    obtain ⟨parts, rfl, hparts⟩ := Language.mem_kstar_iff_exists_nonempty.mp hw
    exact mem_starEnds_of_flatten hround henough hparts hreads

/-- **Matching.** A regular pattern leads from a place exactly where the texts of its language
    lead. -/
theorem mem_ends_iff {p : Pattern} (hp : p.isRegular = true) {c d : Cursor} :
    d ∈ p.ends c ↔ ∃ w ∈ p.language, c.Reads w d := by
  -- on the pattern, with a case for each way to build it
  induction p generalizing c d with
  | nothing =>
    simp [ends, language, Language.mem_one, Cursor.reads_nil_iff]
  | one allowed =>
    obtain ⟨before, after⟩ := c
    constructor
    · intro h
      cases after with
      | nil => simp [ends] at h
      | cons x rest =>
        by_cases hx : allowed x = true
        · simp only [ends, hx, if_true, List.mem_singleton] at h
          rw [h]
          exact ⟨[x], ⟨x, hx, rfl⟩, rfl, rfl⟩
        · simp [ends, hx] at h
    · rintro ⟨_, ⟨x, hx, rfl⟩, hafter, hbefore⟩
      obtain rfl : after = x :: d.after := hafter
      simp only [ends, hx, if_true, List.mem_singleton]
      show d = ⟨x :: before, d.after⟩
      rw [show x :: before = d.before from hbefore.symm]
  | run allowed least =>
    simp only [ends, mem_runEnds_iff, List.not_mem_nil, false_or, mem_language_run_iff]
  | seq first second ihfirst ihsecond =>
    rw [isRegular, Bool.and_eq_true] at hp
    rw [mem_ends_seq, language]
    simp only [ihfirst hp.1, ihsecond hp.2, Language.mem_mul]
    constructor
    · rintro ⟨e, ⟨u, hu, hreads⟩, v, hv, hreads'⟩
      exact ⟨u ++ v, ⟨u, hu, v, hv, rfl⟩, Cursor.reads_append_iff.mpr ⟨e, hreads, hreads'⟩⟩
    · rintro ⟨_, ⟨u, hu, v, hv, rfl⟩, hreads⟩
      obtain ⟨e, hfirst, hsecond⟩ := Cursor.reads_append_iff.mp hreads
      exact ⟨e, ⟨u, hu, hfirst⟩, v, hv, hsecond⟩
  | alt first second ihfirst ihsecond =>
    rw [isRegular, Bool.and_eq_true] at hp
    rw [mem_ends_alt, language, ihfirst hp.1, ihsecond hp.2]
    simp only [Language.mem_add, or_and_right, exists_or]
  | star body ih =>
    rw [ends, language]
    -- the fuel of the repetition is as long as the text that is left
    exact mem_starEnds_iff (fun c d => ih hp) (Nat.le_refl _)
  | opt body ih =>
    rw [ends, language, List.mem_append, ih hp, List.mem_singleton]
    simp only [Language.mem_add, Language.mem_one, or_and_right, exists_or, exists_eq_left,
      Cursor.reads_nil_iff]
  -- these two have no language and are not regular
  | absent body => cases hp
  | wordEdge => cases hp

/-- A match can end somewhere exactly if what follows begins with a text of the language. -/
theorem ends_ne_nil_iff {p : Pattern} (hp : p.isRegular = true) {c : Cursor} :
    p.ends c ≠ [] ↔ ∃ w ∈ p.language, w <+: c.after := by
  constructor
  · intro hne
    obtain ⟨d, hd⟩ := List.exists_mem_of_ne_nil _ hne
    obtain ⟨w, hw, hafter, -⟩ := (mem_ends_iff hp).mp hd
    exact ⟨w, hw, d.after, hafter.symm⟩
  · rintro ⟨w, hw, rest, hafter⟩
    have hmem : (⟨w.reverse ++ c.before, rest⟩ : Cursor) ∈ p.ends c :=
      (mem_ends_iff hp).mpr ⟨w, hw, hafter.symm, rfl⟩
    exact List.ne_nil_of_mem hmem

/-! ### Searching -/

/-- A text of a language stands in a text, and so many characters before it. -/
def OccursAt (L : Language Char) (text : List Char) (column : Nat) : Prop :=
  ∃ front w rest, text = front ++ w ++ rest ∧ w ∈ L ∧ front.length = column

/-- Where a text of the language stands, there a match can end somewhere. -/
theorem occursAt_iff {p : Pattern} (hp : p.isRegular = true) {text : List Char} {column : Nat} :
    OccursAt p.language text column ↔ ∃ front after, text = front ++ after
      ∧ front.length = column ∧ p.ends ⟨front.reverse, after⟩ ≠ [] := by
  constructor
  · rintro ⟨front, w, rest, htext, hw, hlength⟩
    refine ⟨front, w ++ rest, ?_, hlength, (ends_ne_nil_iff hp).mpr ⟨w, hw, rest, rfl⟩⟩
    rw [htext, List.append_assoc]
  · rintro ⟨front, after, htext, hlength, hne⟩
    obtain ⟨w, hw, rest, hafter⟩ := (ends_ne_nil_iff hp).mp hne
    refine ⟨front, w, rest, ?_, hw, hlength⟩
    rw [htext, List.append_assoc]
    exact congrArg (front ++ ·) hafter.symm

/-- **Searching.** The column at which a search finds a regular pattern is the least one at which a
    text of its language stands. -/
theorem column_find?_iff {p : Pattern} (hp : p.isRegular = true) {text : List Char}
    {column : Nat} :
    (p.find? text).map (fun m => m.start.column) = some column
      ↔ IsLeast {n | OccursAt p.language text n} column := by
  constructor
  · intro h
    obtain ⟨m, hm, hcolumn⟩ := Option.map_eq_some_iff.mp h
    obtain ⟨front, after, htext, hstart, hhead, hnone⟩ := findFrom_eq_some_iff.mp hm
    rw [List.append_nil] at hstart
    have hlength : front.length = column := by
      rw [← hcolumn, hstart, Cursor.column, List.length_reverse]
    refine ⟨(occursAt_iff hp).mpr ⟨front, after, htext, hlength, ?_⟩, fun n hn => ?_⟩
    · rw [← hstart]
      exact List.ne_nil_of_mem (List.mem_of_mem_head? hhead)
    · -- further to the left no match can end
      obtain ⟨shorter, rest, htext', hlength', hne⟩ := (occursAt_iff hp).mp hn
      by_contra hlt
      have hnil := hnone shorter rest htext' (by omega)
      rw [List.append_nil] at hnil
      exact hne hnil
  · rintro ⟨hoccurs, hleast⟩
    obtain ⟨front, after, htext, hlength, hne⟩ := (occursAt_iff hp).mp hoccurs
    obtain ⟨stop, hstop⟩ := Option.isSome_iff_exists.mp (List.isSome_head?.mpr hne)
    have hm : p.find? text = some ⟨⟨front.reverse, after⟩, stop⟩ := by
      refine findFrom_eq_some_iff.mpr ⟨front, after, htext, ?_, hstop, fun shorter rest h hlt => ?_⟩
      · rw [List.append_nil]
      · rw [List.append_nil]
        by_contra hne'
        have hle : column ≤ shorter.length :=
          hleast ((occursAt_iff hp).mpr ⟨shorter, rest, h, rfl, hne'⟩)
        omega
    rw [hm, Option.map_some, Cursor.column, List.length_reverse, hlength]

/-! ### Patterns that are put together -/

/-- One pattern after another stands for the texts of all of them, joined. -/
theorem language_all (ps : List Pattern) : (all ps).language = (ps.map language).prod := by
  induction ps with
  | nil => rfl
  | cons p rest ih =>
    cases rest with
    | nil => rw [List.map_singleton, List.prod_singleton, all]
    | cons q rest => rw [List.map_cons, List.prod_cons, ← ih, ends_all_cons, language]

/-- A choice stands for the texts of each pattern. -/
theorem language_any (ps : List Pattern) : (any ps).language = (ps.map language).sum := by
  induction ps with
  | nil =>
    refine Language.ext fun w => ?_
    rw [any, language, mem_single_iff]
    simp
  | cons p rest ih =>
    cases rest with
    | nil => rw [List.map_singleton, List.sum_singleton, any]
    | cons q rest =>
      rw [List.map_cons, List.sum_cons, ← ih]
      rfl

/-- A word by itself. -/
def word (text : String) : Language Char := {text.toList}

/-- A word in any case. -/
def wordAnyCase (text : String) : Language Char :=
  {w | List.Forall₂ (fun x c => sameLetter x c = true) text.toList w}

/-- One character of each class in turn. -/
theorem mem_prod_single_iff {tests : List (Char → Bool)} {w : List Char} :
    w ∈ (tests.map single).prod ↔ List.Forall₂ (fun test c => test c = true) tests w := by
  induction tests generalizing w with
  | nil => rw [List.map_nil, List.prod_nil, Language.mem_one, List.forall₂_nil_left_iff]
  | cons test rest ih =>
    rw [List.map_cons, List.prod_cons, Language.mem_mul, List.forall₂_cons_left_iff]
    constructor
    · rintro ⟨_, ⟨c, hc, rfl⟩, v, hv, rfl⟩
      exact ⟨c, v, hc, ih.mp hv, rfl⟩
    · rintro ⟨c, v, hc, hv, rfl⟩
      exact ⟨[c], ⟨c, hc, rfl⟩, v, ih.mpr hv, rfl⟩

theorem language_literalAnyCase (text : String) :
    (literalAnyCase text).language = wordAnyCase text := by
  refine Language.ext fun w => ?_
  rw [literalAnyCase, language_all, List.map_map]
  show w ∈ (text.toList.map (single ∘ sameLetter)).prod ↔ _
  rw [← List.map_map, mem_prod_single_iff, List.forall₂_map_left_iff]
  rfl

theorem language_literal (text : String) : (literal text).language = word text := by
  refine Language.ext fun w => ?_
  rw [literal, language_all, List.map_map]
  show w ∈ (text.toList.map (single ∘ fun x c => c == x)).prod ↔ w ∈ word text
  rw [← List.map_map, mem_prod_single_iff, List.forall₂_map_left_iff]
  have hequal : (fun x c : Char => (c == x) = true) = Eq := by
    ext x c
    rw [beq_iff_eq, eq_comm]
  rw [hequal, List.forall₂_eq_eq_eq, eq_comm]
  rfl

/-- A number of characters of one class. -/
theorem language_exactly (count : Nat) (allowed : Char → Bool) :
    (exactly count allowed).language = single allowed ^ count := by
  rw [exactly, language_all, List.map_replicate, List.prod_replicate, language]

end Pattern

end PlainScan

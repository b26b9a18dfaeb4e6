import Mathlib.Data.List.Basic
import PlainScan.Pattern.Build

namespace PlainScan.Pattern

/-!
# What a search finds

A search tries one place after another and takes the end that is preferred at the first place where
a match can end at all.

* `BeginsWith` — a pattern that matches only in front of a class of characters.
* `mem_ends_one`, `mem_ends_wordEdge`, `ends_all_ones` — single characters and the edges of words.
* `ends_run_seq`, `ends_star` — the ends of a run and what comes next, and of a repetition.
* `IsFirst` — the first match from a place on; `findFrom_eq_some_iff`, `findFrom_eq_none_iff` — what
  a search finds; `BeginsWith.findFrom_append` — what it passes over.
* `findAllFrom_of_some`, `findAllFrom_of_none` — one step of the search for all matches;
  `findAll_eq_nil_iff` — when there are none.
-/

/-! ### Patterns in a row -/

/-- A pattern that leads to one place hands over to the next pattern there. -/
theorem ends_seq_of_eq {p : Pattern} {c d : Cursor} (h : p.ends c = [d]) (q : Pattern) :
    (seq p q).ends c = q.ends d := by
  rw [ends, h, List.flatMap_singleton]

/-- Where the first pattern leads nowhere, so does the row. -/
theorem ends_seq_of_eq_nil {p : Pattern} {c : Cursor} (h : p.ends c = []) (q : Pattern) :
    (seq p q).ends c = [] := by
  rw [ends, h, List.flatMap_nil]

/-- A pattern matches only where a character of a class comes next. -/
def BeginsWith (test : Char → Bool) (p : Pattern) : Prop :=
  ∀ before after : List Char, after.head?.any test = false → p.ends ⟨before, after⟩ = []

namespace BeginsWith

variable {test : Char → Bool} {p q : Pattern}

theorem one (test : Char → Bool) : (one test).BeginsWith test := by
  intro before after hafter
  cases after with
  | nil => rfl
  | cons c rest =>
    have hc : test c = false := hafter
    simp [ends, hc]

theorem seq (hp : p.BeginsWith test) (q : Pattern) : (seq p q).BeginsWith test :=
  fun before after hafter => ends_seq_of_eq_nil (hp before after hafter) q

theorem alt (hp : p.BeginsWith test) (hq : q.BeginsWith test) : (alt p q).BeginsWith test := by
  intro before after hafter
  rw [ends, hp before after hafter, hq before after hafter, List.append_nil]

end BeginsWith

/-! ### Single characters -/

theorem ends_one_cons {allowed : Char → Bool} {c : Char} (hc : allowed c = true)
    (before rest : List Char) :
    (one allowed).ends ⟨before, c :: rest⟩ = [⟨c :: before, rest⟩] := by
  simp [ends, hc]

/-- A character of the class is taken. -/
theorem mem_ends_one {allowed : Char → Bool} {c d : Cursor} :
    d ∈ (one allowed).ends c ↔
      ∃ x, allowed x = true ∧ c.after = x :: d.after ∧ d.before = x :: c.before := by
  obtain ⟨before, after⟩ := c
  obtain ⟨before', after'⟩ := d
  cases after with
  | nil => simp [ends]
  | cons x rest =>
    by_cases hx : allowed x = true
    · simp [ends, hx, and_comm, @eq_comm _ rest]
    · simp [ends, hx]

/-- The edge of a word takes nothing. -/
theorem mem_ends_wordEdge {c d : Cursor} :
    d ∈ wordEdge.ends c ↔ c.isWordEdge = true ∧ d = c := by
  rw [ends]
  split <;> simp [*]

/-- One character of each class in turn. -/
theorem ends_all_ones {tests : List (Char → Bool)} {w : List Char}
    (h : List.Forall₂ (fun test c => test c = true) tests w) (before rest : List Char) :
    (all (tests.map Pattern.one)).ends ⟨before, w ++ rest⟩ = [⟨w.reverse ++ before, rest⟩] := by
  induction h generalizing before with
  | nil => rfl
  | @cons test c tests w hc hrest ih =>
    have hone := ends_one_cons hc before (w ++ rest)
    cases tests with
    | nil =>
      cases hrest
      exact hone
    | cons next more =>
      rw [List.map_cons, List.map_cons, ends_all_cons, List.cons_append, ends_seq_of_eq hone]
      have hnext := ih (c :: before)
      rw [List.map_cons] at hnext
      rw [hnext, List.reverse_cons, List.append_assoc, List.singleton_append]

/-! ### Runs -/

/-- Where what comes next fails in front of an allowed character, only the longest of the runs
    counts. -/
theorem flatMap_runEnds {allowed : Char → Bool} {next : Cursor → List Cursor}
    (hnext : ∀ before c rest, allowed c = true → next ⟨before, c :: rest⟩ = [])
    {w rest : List Char} (hw : ∀ c ∈ w, allowed c = true) (hrest : rest.head?.any allowed = false)
    (least : Nat) (before : List Char) (shorter : List Cursor) :
    (runEnds allowed least before (w ++ rest) shorter).flatMap next
      = (if least ≤ w.length then next ⟨w.reverse ++ before, rest⟩ else [])
        ++ shorter.flatMap next := by
  induction w generalizing least before shorter with
  | nil =>
    have hstop : runEnds allowed least before rest shorter
        = if least = 0 then ⟨before, rest⟩ :: shorter else shorter := by
      cases rest with
      | nil => rfl
      | cons c rest =>
        have hc : allowed c = false := hrest
        simp [runEnds, hc]
    rw [List.nil_append, hstop]
    by_cases hleast : least = 0 <;> simp [hleast]
  | cons c w ih =>
    rw [List.forall_mem_cons] at hw
    -- a run that could go on leads nowhere
    have hreached : (if least = 0 then ⟨before, c :: (w ++ rest)⟩ :: shorter else shorter).flatMap
        next = shorter.flatMap next := by
      split
      · rw [List.flatMap_cons, hnext before c _ hw.1, List.nil_append]
      · rfl
    have hlength : least - 1 ≤ w.length ↔ least ≤ (c :: w).length := by
      rw [List.length_cons]
      omega
    rw [List.cons_append, runEnds, if_pos hw.1, ih hw.2, hreached]
    simp only [hlength, List.reverse_cons, List.append_assoc, List.singleton_append]

/-- **Runs.** A run in front of a pattern that begins with none of its characters takes all of them
    that come next. -/
theorem ends_run_seq {allowed test : Char → Bool} {p : Pattern} (hp : p.BeginsWith test)
    (hapart : ∀ c, allowed c = true → test c = false) {w rest : List Char}
    (hw : ∀ c ∈ w, allowed c = true) (hrest : rest.head?.any allowed = false) {least : Nat}
    (hleast : least ≤ w.length) (before : List Char) :
    (seq (run allowed least) p).ends ⟨before, w ++ rest⟩
      = p.ends ⟨w.reverse ++ before, rest⟩ := by
  have hnext : ∀ before c rest, allowed c = true → p.ends ⟨before, c :: rest⟩ = [] :=
    fun before c rest hc => hp before (c :: rest) (hapart c hc)
  rw [ends, ends, flatMap_runEnds hnext hw hrest, if_pos hleast, List.flatMap_nil, List.append_nil]

/-! ### Repetitions -/

/-- As many rounds are enough as there are characters. -/
theorem starEnds_of_le {round : Cursor → List Cursor} {rounds : Nat} {c : Cursor}
    (henough : c.after.length ≤ rounds) :
    starEnds round rounds c = starEnds round c.after.length c := by
  induction rounds using Nat.strongRecOn generalizing c with
  | ind rounds ih =>
    cases rounds with
    | zero => rw [Nat.le_zero.mp henough]
    | succ rounds =>
      cases hlength : c.after.length with
      | zero => simp [starEnds, hlength]
      | succ length =>
        rw [hlength] at henough
        rw [starEnds, starEnds]
        congr 1
        -- a round moves on, so fewer rounds are enough from there, however many there are
        refine List.flatMap_congr fun d hd => ?_
        have hmoves := of_decide_eq_true (List.mem_filter.mp hd).2
        rw [ih rounds (Nat.lt_succ_self rounds) (by omega), ih length (by omega) (by omega)]

/-- **Repetitions.** A repetition goes on behind each round that moves on, or it ends at once. -/
theorem ends_star (body : Pattern) (c : Cursor) :
    (star body).ends c
      = ((body.ends c).filter fun d => d.after.length < c.after.length).flatMap (star body).ends
        ++ [c] := by
  rw [ends]
  cases hlength : c.after.length with
  | zero => simp [starEnds]
  | succ length =>
    rw [starEnds, hlength]
    congr 1
    refine List.flatMap_congr fun d hd => ?_
    have hmoves := of_decide_eq_true (List.mem_filter.mp hd).2
    rw [ends, starEnds_of_le (by omega)]

/-- A repetition may end at once. -/
theorem self_mem_ends_star (body : Pattern) (c : Cursor) : c ∈ (star body).ends c := by
  rw [ends_star]
  exact List.mem_append_right _ List.mem_cons_self

/-- With one way on the repetition goes on there first. -/
theorem ends_star_of_eq {body : Pattern} {c d : Cursor} (h : body.ends c = [d])
    (hmoves : d.after.length < c.after.length) :
    (star body).ends c = (star body).ends d ++ [c] := by
  rw [ends_star, h, List.filter_singleton, decide_eq_true hmoves, cond_true,
    List.flatMap_singleton]

/-- Without any it ends at once. -/
theorem ends_star_of_eq_nil {body : Pattern} {c : Cursor} (h : body.ends c = []) :
    (star body).ends c = [c] := by
  rw [ends_star, h, List.filter_nil, List.flatMap_nil, List.nil_append]

/-! ### The first match -/

/-- A match starts behind a front, ends where it is preferred, and none starts before it. -/
def IsFirst (p : Pattern) (before text : List Char) (m : Occurrence) : Prop :=
  ∃ front after, text = front ++ after
    ∧ m.start = ⟨front.reverse ++ before, after⟩ ∧ (p.ends m.start).head? = some m.stop
    ∧ ∀ shorter rest, text = shorter ++ rest → shorter.length < front.length →
        p.ends ⟨shorter.reverse ++ before, rest⟩ = []

section

variable {p : Pattern} {before text rest : List Char} {c : Char} {m : Occurrence}

/-- A match at the place itself is the first one. -/
theorem isFirst_here {stop : Cursor} (h : (p.ends ⟨before, text⟩).head? = some stop) :
    IsFirst p before text m ↔ m = ⟨⟨before, text⟩, stop⟩ := by
  obtain ⟨start, stop'⟩ := m
  constructor
  · rintro ⟨front, after, rfl, hstart, hhead, hnone⟩
    cases front with
    | nil =>
      obtain rfl : start = ⟨before, after⟩ := hstart
      have hstop : (p.ends ⟨before, after⟩).head? = some stop' := hhead
      rw [List.nil_append, hstop, Option.some.injEq] at h
      rw [h]
      rfl
    | cons x front =>
      -- a match can start here, so none starts further on first
      have hhere : p.ends ⟨before, x :: front ++ after⟩ = [] := hnone [] _ rfl (Nat.succ_pos _)
      rw [hhere] at h
      cases h
  · intro hm
    obtain ⟨rfl, rfl⟩ := Occurrence.mk.inj hm
    exact ⟨[], text, rfl, rfl, h, fun _ _ _ hlt => absurd hlt (Nat.not_lt_zero _)⟩

/-- Where the text ends and nothing matches there is no first match. -/
theorem not_isFirst_nil (h : p.ends ⟨before, []⟩ = []) : ¬ IsFirst p before [] m := by
  obtain ⟨start, stop⟩ := m
  rintro ⟨front, after, htext, hstart, hhead, -⟩
  obtain ⟨rfl, rfl⟩ := List.append_eq_nil_iff.mp htext.symm
  obtain rfl : start = ⟨before, []⟩ := hstart
  have hstop : (p.ends ⟨before, []⟩).head? = some stop := hhead
  rw [h] at hstop
  cases hstop

/-- Where nothing matches the first match is that of the rest of the text. -/
theorem isFirst_cons (h : p.ends ⟨before, c :: rest⟩ = []) :
    IsFirst p before (c :: rest) m ↔ IsFirst p (c :: before) rest m := by
  -- a step to the right moves a character from the rest to what was passed
  have hplace : ∀ front : List Char, (c :: front).reverse ++ before
      = front.reverse ++ c :: before := by simp
  obtain ⟨start, stop⟩ := m
  constructor
  · rintro ⟨front, after, htext, hstart, hhead, hnone⟩
    cases front with
    | nil =>
      -- the match is not here
      obtain rfl : c :: rest = after := htext
      obtain rfl : start = ⟨before, c :: rest⟩ := hstart
      have hstop : (p.ends ⟨before, c :: rest⟩).head? = some stop := hhead
      rw [h] at hstop
      cases hstop
    | cons x front =>
      obtain ⟨rfl, rfl⟩ := List.cons.inj htext
      refine ⟨front, after, rfl, hstart.trans (by rw [hplace]), hhead, ?_⟩
      intro shorter tail htail hlt
      rw [← hplace]
      exact hnone (c :: shorter) tail (congrArg (c :: ·) htail) (Nat.succ_lt_succ hlt)
  · rintro ⟨front, after, rfl, hstart, hhead, hnone⟩
    refine ⟨c :: front, after, rfl, hstart.trans (by rw [hplace]), hhead, ?_⟩
    intro shorter tail htext hlt
    cases shorter with
    | nil =>
      -- here nothing matches, and further on the rest tells
      rw [← List.nil_append tail, ← htext]
      exact h
    | cons x shorter =>
      obtain ⟨rfl, hrest⟩ := List.cons.inj htext
      rw [hplace]
      exact hnone shorter tail hrest (Nat.lt_of_succ_lt_succ hlt)

end

/-- **Search.** A search from a place on finds the first place where a match can end, and the end
    that is preferred there. -/
theorem findFrom_eq_some_iff {p : Pattern} {before text : List Char} {m : Occurrence} :
    p.findFrom before text = some m ↔ ∃ front after, text = front ++ after
      ∧ m.start = ⟨front.reverse ++ before, after⟩ ∧ (p.ends m.start).head? = some m.stop
      ∧ ∀ shorter rest, text = shorter ++ rest → shorter.length < front.length →
          p.ends ⟨shorter.reverse ++ before, rest⟩ = [] := by
  show _ ↔ IsFirst p before text m
  -- on the text: a match here is the first one, and otherwise the rest tells
  induction text generalizing before with
  | nil =>
    rw [findFrom]
    cases hends : p.ends ⟨before, []⟩ with
    | nil => exact iff_of_false (by simp) (not_isFirst_nil hends)
    | cons first more =>
      rw [isFirst_here (congrArg List.head? hends), List.head?_cons, Option.map_some,
        Option.some.injEq, eq_comm]
  | cons c rest ih =>
    rw [findFrom]
    cases hends : p.ends ⟨before, c :: rest⟩ with
    | nil =>
      rw [isFirst_cons hends]
      exact ih
    | cons first more =>
      rw [isFirst_here (congrArg List.head? hends)]
      exact Option.some_inj.trans eq_comm

/-- A search from a place on finds a pattern exactly if it matches there or further on. -/
theorem isSome_findFrom_iff (p : Pattern) (before text : List Char) :
    (p.findFrom before text).isSome = true ↔
      ∃ front after, text = front ++ after ∧
        ∃ stop, stop ∈ p.ends ⟨front.reverse ++ before, after⟩ := by
  -- on the text: the search tries one place after another
  induction text generalizing before with
  | nil =>
    rw [findFrom, Option.isSome_map, List.isSome_head?]
    constructor
    · intro hne
      obtain ⟨stop, hstop⟩ := List.exists_mem_of_ne_nil _ (by simpa using hne)
      exact ⟨[], [], rfl, stop, hstop⟩
    · rintro ⟨front, after, htext, stop, hstop⟩
      obtain ⟨rfl, rfl⟩ := List.append_eq_nil_iff.mp htext.symm
      have hne := List.ne_nil_of_mem hstop
      simpa using hne
  | cons c rest ih =>
    rw [findFrom]
    cases hends : p.ends ⟨before, c :: rest⟩ with
    | cons stop more =>
      refine iff_of_true rfl ⟨[], c :: rest, rfl, stop, ?_⟩
      rw [List.reverse_nil, List.nil_append, hends]
      exact List.mem_cons_self
    | nil =>
      -- nothing matches here, so a match starts behind the first character
      rw [ih]
      constructor
      · rintro ⟨front, after, rfl, stop, hstop⟩
        refine ⟨c :: front, after, rfl, stop, ?_⟩
        rwa [List.reverse_cons, List.append_assoc, List.singleton_append]
      · rintro ⟨front, after, htext, stop, hstop⟩
        cases front with
        | nil =>
          rw [List.nil_append] at htext
          rw [← htext, List.reverse_nil, List.nil_append, hends] at hstop
          exact absurd hstop List.not_mem_nil
        | cons first front =>
          obtain ⟨rfl, rfl⟩ := List.cons.inj htext
          refine ⟨front, after, rfl, stop, ?_⟩
          rwa [List.reverse_cons, List.append_assoc, List.singleton_append] at hstop

/-- It finds nothing exactly if no match can end anywhere. -/
theorem findFrom_eq_none_iff {p : Pattern} {before text : List Char} :
    p.findFrom before text = none ↔
      ∀ front after, text = front ++ after → p.ends ⟨front.reverse ++ before, after⟩ = [] := by
  rw [← Option.not_isSome_iff_eq_none, isSome_findFrom_iff]
  constructor
  · intro h front after htext
    rw [List.eq_nil_iff_forall_not_mem]
    exact fun stop hstop => h ⟨front, after, htext, stop, hstop⟩
  · rintro h ⟨front, after, htext, stop, hstop⟩
    rw [h front after htext] at hstop
    exact absurd hstop List.not_mem_nil

/-- A pattern is found at once where a match can end. -/
theorem findFrom_of_head? {p : Pattern} {before text : List Char} {stop : Cursor}
    (h : (p.ends ⟨before, text⟩).head? = some stop) :
    p.findFrom before text = some ⟨⟨before, text⟩, stop⟩ :=
  findFrom_eq_some_iff.mpr ((isFirst_here h).mpr rfl)

/-- A search passes over characters with which the pattern does not begin. -/
theorem BeginsWith.findFrom_append {test : Char → Bool} {p : Pattern} (hp : p.BeginsWith test)
    {skipped : List Char} (hskipped : ∀ c ∈ skipped, test c = false) (before rest : List Char) :
    p.findFrom before (skipped ++ rest) = p.findFrom (skipped.reverse ++ before) rest := by
  induction skipped generalizing before with
  | nil => rfl
  | cons c skipped ih =>
    rw [List.forall_mem_cons] at hskipped
    rw [List.cons_append, findFrom, hp before (c :: (skipped ++ rest)) hskipped.1]
    simp only [ih hskipped.2, List.reverse_cons, List.append_assoc, List.singleton_append]

/-- Where there are only such characters it finds nothing. -/
theorem BeginsWith.findFrom_eq_none {test : Char → Bool} {p : Pattern} (hp : p.BeginsWith test)
    {text : List Char} (htext : ∀ c ∈ text, test c = false) (before : List Char) :
    p.findFrom before text = none := by
  have hend := hp.findFrom_append htext before []
  rw [List.append_nil] at hend
  rw [hend, findFrom, hp _ [] rfl]
  rfl

/-- A pattern that begins with a character that does not come again is found at the start only. -/
theorem BeginsWith.isSome_find?_cons {test : Char → Bool} {p : Pattern} (hp : p.BeginsWith test)
    {c : Char} {rest : List Char} (hrest : ∀ d ∈ rest, test d = false) :
    (p.find? (c :: rest)).isSome = true ↔ p.ends ⟨[], c :: rest⟩ ≠ [] := by
  rw [find?, findFrom]
  cases hends : p.ends ⟨[], c :: rest⟩ with
  | nil => simp [hp.findFrom_eq_none hrest]
  | cons stop more => simp

/-! ### All matches -/

/-- There is no match exactly if there is no first one. -/
theorem findAll_eq_nil_iff {p : Pattern} {text : List Char} :
    p.findAll text = [] ↔ p.find? text = none := by
  rw [findAll, findAllFrom, find?]
  cases hfind : p.findFrom (Cursor.start text).before (Cursor.start text).after with
  | none => exact iff_of_true rfl hfind
  | some m =>
    refine iff_of_false ?_ fun hnone => ?_
    · dsimp only
      split <;> exact List.cons_ne_nil _ _
    · exact absurd (hfind.symm.trans hnone) (Option.some_ne_none m)

/-- Behind a match that is not empty the search goes on. -/
theorem findAllFrom_of_some {p : Pattern} {c : Cursor} {m : Occurrence}
    (h : p.findFrom c.before c.after = some m)
    (hmoves : m.stop.after.length < m.start.after.length) (fuel : Nat) :
    p.findAllFrom (fuel + 1) c = m :: p.findAllFrom fuel m.stop := by
  rw [findAllFrom, h]
  simp only [hmoves, if_true]

/-- The search for all matches passes over the same characters. -/
theorem BeginsWith.findAllFrom_append {test : Char → Bool} {p : Pattern} (hp : p.BeginsWith test)
    {skipped : List Char} (hskipped : ∀ c ∈ skipped, test c = false) (fuel : Nat)
    (before rest : List Char) :
    p.findAllFrom fuel ⟨before, skipped ++ rest⟩
      = p.findAllFrom fuel ⟨skipped.reverse ++ before, rest⟩ := by
  cases fuel with
  | zero => rfl
  | succ fuel => rw [findAllFrom, findAllFrom, hp.findFrom_append hskipped]

/-- Without any the search ends. -/
theorem findAllFrom_of_none {p : Pattern} {c : Cursor} (h : p.findFrom c.before c.after = none)
    (fuel : Nat) : p.findAllFrom fuel c = [] := by
  cases fuel with
  | zero => rfl
  | succ fuel => rw [findAllFrom, h]

end PlainScan.Pattern

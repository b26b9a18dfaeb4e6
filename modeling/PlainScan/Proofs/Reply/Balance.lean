import Mathlib.Data.List.Infix
import PlainScan.Proofs.Reply.Braces

namespace PlainScan

/-!
# Balanced texts

A text is balanced if the search for braces, started on it, is inside of them from its first
character on and outside again only after its last one.  Whether it can be read does not matter.

* `BraceScan.Balanced` — such a text; `BraceScan.balanced_of_spells` — objects are among them.
* `BraceScan.Balanced.run_eq` — outside of braces it comes out as it is.
* `BraceScan.Balanced.run_of_prefix` — nothing comes out before its last character.
* `BraceScan.Balanced.passes` — inside of braces it is passed.
* `BraceScan.Balanced.eq_of_append` — a text starts with at most one balanced text.
* `BraceScan.Finds` — what a search finds in a text, told from one text to the next.
-/

namespace BraceScan

/-- A text whose first character opens a brace that its last one closes, and none before. -/
structure Balanced (text : List Char) : Prop where
  opens : text.head? = some '\x7b'
  inside : ∀ u, u <+: text → u ≠ [] → u ≠ text → 0 < (after {} u).depth
  closes : (after {} text).depth = 0

instance (text : List Char) : Decidable (Balanced text) :=
  decidable_of_iff
    (text.head? = some '\x7b'
      ∧ (∀ u ∈ text.inits, u ≠ [] → u ≠ text → 0 < (after {} u).depth)
      ∧ (after {} text).depth = 0)
    ⟨fun ⟨hopens, hinside, hcloses⟩ =>
        ⟨hopens, fun u hu => hinside u (List.mem_inits u text |>.mpr hu), hcloses⟩,
      fun h => ⟨h.opens, fun u hu => h.inside u (List.mem_inits u text |>.mp hu), h.closes⟩⟩

/-! ### As long as braces are open -/

/-- Inside of braces a character either keeps one open and is taken note of, or closes the last of
    them. -/
theorem step_of_depth_pos {s : BraceScan} (h : 0 < s.depth) (c : Char) :
    (0 < (s.step c).1.depth ∧ (s.step c).1.chunk = c :: s.chunk ∧ (s.step c).2 = none)
      ∨ (s.depth = 1 ∧ s.inString = false ∧ c = '\x7d'
          ∧ s.step c = ({}, some (c :: s.chunk).reverse)) := by
  have hne : s.depth ≠ 0 := by omega
  by_cases hstring : s.inString = true
  · -- a string leaves the braces as they are
    left
    rw [step, if_pos hstring]
    unfold stepString
    split
    · exact ⟨h, rfl, rfl⟩
    · split
      · exact ⟨h, rfl, rfl⟩
      · split
        · exact ⟨h, rfl, rfl⟩
        · exact ⟨h, rfl, rfl⟩
  -- only a brace that closes the last one ends the chunk
  · by_cases hclose : c = '\x7d' ∧ s.depth = 1
    · obtain ⟨rfl, hdepth⟩ := hclose
      right
      rw [Bool.not_eq_true] at hstring
      exact ⟨hdepth, hstring, rfl, by simp [step, hstring, hdepth]⟩
    · left
      simp only [step, hstring, if_false, if_neg hne, Bool.false_eq_true]
      split
      · exact ⟨h, rfl, rfl⟩
      · split
        · exact ⟨Nat.succ_pos _, rfl, rfl⟩
        · split
          · rename_i hbrace
            have hdepth : s.depth ≠ 1 := fun hone => hclose ⟨beq_iff_eq.mp hbrace, hone⟩
            rw [if_neg hdepth]
            exact ⟨by show 0 < s.depth - 1; omega, rfl, rfl⟩
          · exact ⟨h, rfl, rfl⟩

/-- Nothing comes out of a text exactly if a brace stays open all along. -/
theorem run_eq_nil_iff {s : BraceScan} (h : 0 < s.depth) {text : List Char} :
    s.run text = [] ↔ ∀ u, u <+: text → 0 < (s.after u).depth := by
  induction text generalizing s with
  | nil =>
    refine iff_of_true rfl ?_
    intro u hu
    rwa [List.prefix_nil.mp hu]
  | cons c rest ih =>
    -- on the first character: a brace stays open, or the last one closes
    rcases step_of_depth_pos h c with ⟨hdepth, -, hnone⟩ | ⟨-, -, -, hstep⟩
    · rw [run_cons, hnone, Option.toList_none, List.nil_append, ih hdepth]
      constructor
      · intro hrest u hu
        rcases List.prefix_cons_iff.mp hu with rfl | ⟨v, rfl, hv⟩
        · exact h
        · exact hrest v hv
      · intro hall u hu
        exact hall (c :: u) (List.cons_prefix_cons.mpr ⟨rfl, hu⟩)
    · -- the last brace is closed right here
      have hsome : s.run (c :: rest) ≠ [] := by
        rw [run_cons, hstep]
        exact List.cons_ne_nil _ _
      have hzero : (s.after [c]).depth = 0 := by
        rw [after_cons, hstep]
        rfl
      refine iff_of_false hsome ?_
      intro hall
      have hpos := hall [c] (List.cons_prefix_cons.mpr ⟨rfl, List.nil_prefix⟩)
      omega

/-- As long as nothing comes out, a brace is open and the text since the outermost one is known. -/
theorem after_of_run_eq_nil {s : BraceScan} (h : 0 < s.depth) {text : List Char}
    (hrun : s.run text = []) :
    0 < (s.after text).depth ∧ (s.after text).chunk = text.reverse ++ s.chunk := by
  induction text generalizing s with
  | nil => exact ⟨h, rfl⟩
  | cons c rest ih =>
    rcases step_of_depth_pos h c with ⟨hdepth, hchunk, hnone⟩ | ⟨-, -, -, hstep⟩
    · rw [run_cons, hnone] at hrun
      obtain ⟨hpos, hrest⟩ := ih hdepth hrun
      refine ⟨hpos, ?_⟩
      rw [after_cons, hrest, hchunk, List.reverse_cons, List.append_assoc, List.singleton_append]
    · rw [run_cons, hstep] at hrun
      cases hrun

/-- A backslash is waited on only inside of a string. -/
theorem escaped_step {s : BraceScan} (h : s.escaped = true → s.inString = true) (c : Char) :
    (s.step c).1.escaped = true → (s.step c).1.inString = true := by
  unfold step
  split
  · rename_i hstring
    -- in a string: the backslash is taken back or waited on, and the string goes on
    unfold stepString
    split
    · intro hescaped
      cases hescaped
    · split
      · exact fun _ => hstring
      · split
        · rename_i hescaped _ _
          exact fun hother => absurd hother hescaped
        · exact fun _ => hstring
  · -- outside of strings a character changes nothing of this, or the search starts anew
    split
    · split
      · exact h
      · exact h
    · split
      · exact fun _ => rfl
      · split
        · exact h
        · split
          · split
            · intro hescaped
              cases hescaped
            · exact h
          · exact h

theorem escaped_after {s : BraceScan} (h : s.escaped = true → s.inString = true)
    (text : List Char) : (s.after text).escaped = true → (s.after text).inString = true := by
  induction text generalizing s with
  | nil => exact h
  | cons c rest ih => exact ih (escaped_step h c)

/-! ### Through a balanced text -/

/-- The search behind the first brace. -/
def opened : BraceScan := { depth := 1, chunk := ['\x7b'] }

/-- A balanced text has braces at its ends, and what is between them leaves the first one, and no
    other, open. -/
theorem Balanced.exists_inside {text : List Char} (h : Balanced text) :
    ∃ mid, text = '\x7b' :: (mid ++ ['\x7d']) ∧ opened.run mid = []
      ∧ opened.after mid = { depth := 1, chunk := mid.reverse ++ ['\x7b'] } := by
  obtain ⟨rest, rfl⟩ : ∃ rest, text = '\x7b' :: rest := by
    cases text with
    | nil => cases h.opens
    | cons c rest => exact ⟨rest, by rw [Option.some.inj h.opens]⟩
  rcases List.eq_nil_or_concat rest with rfl | ⟨mid, c, rfl⟩
  · -- a brace alone is not closed
    cases h.closes
  · rw [List.concat_eq_append] at h ⊢
    have hquiet : opened.run mid = [] := by
      refine (run_eq_nil_iff Nat.one_pos).mpr ?_
      intro u hu
      have hstart : '\x7b' :: u <+: '\x7b' :: (mid ++ [c]) :=
        List.cons_prefix_cons.mpr ⟨rfl, hu.trans (List.prefix_append mid [c])⟩
      refine h.inside _ hstart (List.cons_ne_nil _ _) ?_
      intro heq
      have hlength := hu.length_le
      rw [(List.cons.inj heq).2, List.length_append, List.length_singleton] at hlength
      omega
    obtain ⟨hpos, hchunk⟩ := after_of_run_eq_nil Nat.one_pos hquiet
    have hescaped := escaped_after (s := opened) (fun hno => nomatch hno) mid
    rcases step_of_depth_pos hpos c with ⟨hstep, -, -⟩ | ⟨hdepth, hstring, rfl, -⟩
    · -- the last character leaves no brace open
      have hcloses : (after {} ('\x7b' :: (mid ++ [c]))).depth = 0 := h.closes
      have hafter : after {} ('\x7b' :: (mid ++ [c])) = ((opened.after mid).step c).1 := by
        rw [after_cons, after_append]
        rfl
      rw [hafter] at hcloses
      omega
    · refine ⟨mid, rfl, hquiet, ?_⟩
      have hplain : (opened.after mid).escaped = false := by
        cases hcase : (opened.after mid).escaped with
        | false => rfl
        | true =>
          have hquoted := hescaped hcase
          rw [hstring] at hquoted
          cases hquoted
      calc opened.after mid
          = ⟨(opened.after mid).depth, (opened.after mid).chunk, (opened.after mid).inString,
              (opened.after mid).escaped⟩ := rfl
        _ = { depth := 1, chunk := mid.reverse ++ ['\x7b'] } := by
          rw [hdepth, hchunk, hstring, hplain]
          rfl

/-- **Outside of braces.** A balanced text comes out as it is, and the search is outside of braces
    again. -/
theorem Balanced.run_eq {text : List Char} (h : Balanced text) :
    after {} text = {} ∧ run {} text = [text] := by
  obtain ⟨mid, rfl, hquiet, hinside⟩ := h.exists_inside
  have hopen : step {} '\x7b' = (opened, none) := rfl
  have hclose : ({ depth := 1, chunk := mid.reverse ++ ['\x7b'] } : BraceScan).step '\x7d'
      = ({}, some ('\x7b' :: (mid ++ ['\x7d']))) := by
    simp [step]
  rw [after_cons, run_cons, hopen, after_append, run_append, hquiet, hinside, after_cons, run_cons,
    hclose]
  exact ⟨rfl, rfl⟩

/-- Nothing comes out of a balanced text that is cut off. -/
theorem Balanced.run_of_prefix {text u : List Char} (h : Balanced text) (hu : u <+: text)
    (hne : u ≠ text) : run {} u = [] := by
  cases u with
  | nil => rfl
  | cons c v =>
    obtain ⟨mid, rfl, -, -⟩ := h.exists_inside
    obtain ⟨rfl, hv⟩ := List.cons_prefix_cons.mp hu
    have hopen : step {} '\x7b' = (opened, none) := rfl
    rw [run_cons, hopen, Option.toList_none, List.nil_append]
    refine (run_eq_nil_iff Nat.one_pos).mpr ?_
    intro w hw
    have hlength := hw.length_le
    refine h.inside ('\x7b' :: w) (List.cons_prefix_cons.mpr ⟨rfl, hw.trans hv⟩)
      (List.cons_ne_nil _ _) ?_
    intro heq
    -- what is as long as the whole text is not cut off
    have hwhole := hv.length_le
    rw [← (List.cons.inj heq).2] at hwhole
    exact hne (by rw [← (List.cons.inj heq).2, ← hw.eq_of_length_le hwhole])

/-- Where something comes out, it does at the end of a start of the text, and not before. -/
theorem exists_closing_prefix {s : BraceScan} (h : 0 < s.depth) {text : List Char}
    (hrun : s.run text ≠ []) :
    ∃ u rest, text = u ++ rest ∧ (∀ w, w <+: u → w ≠ u → 0 < (s.after w).depth)
      ∧ (s.after u).depth = 0 := by
  induction text generalizing s with
  | nil => exact absurd rfl hrun
  | cons c more ih =>
    rcases step_of_depth_pos h c with ⟨hdepth, -, hnone⟩ | ⟨-, -, -, hstep⟩
    · rw [run_cons, hnone] at hrun
      obtain ⟨u, rest, rfl, hopen, hclosed⟩ := ih hdepth hrun
      refine ⟨c :: u, rest, rfl, ?_, hclosed⟩
      intro w hw hne
      rcases List.prefix_cons_iff.mp hw with rfl | ⟨v, rfl, hv⟩
      · exact h
      · exact hopen v hv fun heq => hne (congrArg (c :: ·) heq)
    · -- the last brace is closed right here
      refine ⟨[c], more, rfl, ?_, by simp [hstep]⟩
      intro w hw hne
      rcases List.prefix_cons_iff.mp hw with rfl | ⟨v, rfl, hv⟩
      · exact h
      · exact absurd (congrArg (c :: ·) (List.prefix_nil.mp hv)) hne

/-- If something comes out of a text that opens a brace first, then a balanced text comes first. -/
theorem exists_balanced_append {text : List Char} (hrun : opened.run text ≠ []) :
    ∃ core rest, '\x7b' :: text = core ++ rest ∧ Balanced core := by
  obtain ⟨u, rest, rfl, hopen, hclosed⟩ := exists_closing_prefix Nat.one_pos hrun
  refine ⟨'\x7b' :: u, rest, rfl, rfl, ?_, hclosed⟩
  intro w hw hnil hne
  rcases List.prefix_cons_iff.mp hw with rfl | ⟨v, rfl, hv⟩
  · exact absurd rfl hnil
  · exact hopen v hv fun heq => hne (congrArg ('\x7b' :: ·) heq)

/-- A text starts with at most one balanced text. -/
theorem Balanced.eq_of_append {a b rest rest' : List Char} (ha : Balanced a) (hb : Balanced b)
    (h : a ++ rest = b ++ rest') : a = b := by
  have hunique : ∀ {x y : List Char}, Balanced x → Balanced y → x <+: y → x = y := by
    intro x y hx hy hxy
    by_cases hne : x = y
    · exact hne
    · have hnil : x ≠ [] := by
        rintro rfl
        cases hx.opens
      have hpos := hy.inside x hxy hnil hne
      rw [hx.closes] at hpos
      exact absurd hpos (Nat.lt_irrefl 0)
  have hleft : a <+: a ++ rest := List.prefix_append a rest
  have hright : b <+: a ++ rest := by
    rw [h]
    exact List.prefix_append b rest'
  rcases List.prefix_or_prefix_of_prefix hleft hright with hab | hba
  · exact hunique ha hb hab
  · exact (hunique hb ha hba).symm

/-! ### Inside of other braces -/

/-- A search inside of the braces of another one. -/
def nest (outer s : BraceScan) : BraceScan :=
  { s with depth := s.depth + outer.depth, chunk := s.chunk ++ outer.chunk }

/-- As long as its own brace is open, a search goes on the same way inside of others. -/
theorem step_nest {outer s : BraceScan} {c : Char} (h : 0 < s.depth)
    (hnext : 0 < (s.step c).1.depth) :
    (nest outer s).step c = (nest outer (s.step c).1, none) := by
  have hne : s.depth ≠ 0 := by omega
  by_cases hstring : s.inString = true
  · -- in a string the depth does not matter
    simp only [step, nest, hstring, if_true, stepString]
    split
    · rfl
    · split
      · rfl
      · split
        · rfl
        · rfl
  -- the brace that closes this search would leave nothing open
  · have hclose : ¬ (c = '\x7d' ∧ s.depth = 1) := by
      rintro ⟨rfl, hdepth⟩
      simp [step, hstring, hdepth] at hnext
    have hdeep : s.depth + outer.depth ≠ 0 := by omega
    simp only [step, nest, hstring, if_false, if_neg hne, if_neg hdeep, Bool.false_eq_true]
    split
    · rfl
    · split
      · simp only [List.cons_append, Nat.add_right_comm]
      · split
        · rename_i hbrace
          have hdepth : s.depth ≠ 1 := fun hone => hclose ⟨beq_iff_eq.mp hbrace, hone⟩
          have hdepth' : s.depth + outer.depth ≠ 1 := by omega
          have hsub : s.depth + outer.depth - 1 = s.depth - 1 + outer.depth := by omega
          simp only [if_neg hdepth, if_neg hdepth', hsub, List.cons_append]
        · rfl

theorem after_nest (outer : BraceScan) {s : BraceScan} {text : List Char} (h : 0 < s.depth)
    (hrun : s.run text = []) :
    (nest outer s).after text = nest outer (s.after text) ∧ (nest outer s).run text = [] := by
  induction text generalizing s with
  | nil => exact ⟨rfl, rfl⟩
  | cons c rest ih =>
    rcases step_of_depth_pos h c with ⟨hdepth, -, hnone⟩ | ⟨-, -, -, hstep⟩
    · rw [run_cons, hnone] at hrun
      rw [after_cons, run_cons, step_nest h hdepth, after_cons]
      exact ih hdepth hrun
    · rw [run_cons, hstep] at hrun
      cases hrun

/-- **Inside of braces.** A balanced text is passed. -/
theorem Balanced.passes {text : List Char} (h : Balanced text) : Passes text := by
  obtain ⟨mid, rfl, hquiet, hinside⟩ := h.exists_inside
  intro s hpos hstring hescaped
  have hne : s.depth ≠ 0 := by omega
  -- the first brace opens a search of its own inside of the one that is there
  have hopen : s.step '\x7b' = (nest s opened, none) := by
    simp [step, hstring, hne, nest, opened, hescaped, Nat.add_comm]
  obtain ⟨hafter, hrun⟩ := after_nest s Nat.one_pos hquiet
  have hclose : (nest s { depth := 1, chunk := mid.reverse ++ ['\x7b'] }).step '\x7d'
      = (s.extend ('\x7b' :: (mid ++ ['\x7d'])), none) := by
    simp [step, nest, hne, hstring, hescaped, extend]
  rw [after_cons, run_cons, hopen, after_append, run_append, hafter, hrun, hinside, after_cons,
    run_cons, hclose]
  exact ⟨rfl, rfl⟩

/-! ### Objects -/

/-- A pair of braces is balanced if what is in it is passed. -/
theorem Passes.balanced {text : List Char} (h : Passes text) :
    Balanced ('\x7b' :: (text ++ ['\x7d'])) where
  opens := rfl
  inside := by
    intro u hu hnil hne
    obtain ⟨-, hrun⟩ := h opened Nat.one_pos rfl rfl
    rcases List.prefix_cons_iff.mp hu with rfl | ⟨v, rfl, hv⟩
    · exact absurd rfl hnil
    · rcases List.prefix_concat_iff.mp hv with rfl | hv
      · exact absurd rfl hne
      · exact (run_eq_nil_iff Nat.one_pos).mp hrun v hv
  closes := by
    -- the depth is one between the braces
    obtain ⟨hafter, -⟩ := h opened Nat.one_pos rfl rfl
    have hopen : step {} '\x7b' = (opened, none) := rfl
    have hclose : ((opened.extend text).step '\x7d').1 = {} := by
      simp [step, extend, opened]
    rw [after_cons, hopen, after_append, hafter, after_cons, hclose]
    rfl

/-- An object is balanced. -/
theorem balanced_of_spells {fields : Fields} {text : List Char}
    (h : Json.Spells (.value (.obj fields)) text) : Balanced text := by
  cases h with
  | scalar hscalar => cases hscalar.kind.2
  | emptyObject hsp => exact (passes_spaces hsp).balanced
  | object hsp hinside =>
    have hpasses := ((passes_spaces hsp).append (passes_of_spells hinside)).balanced
    rwa [List.append_assoc] at hpasses

/-! ### What is found -/

/-- A search that starts outside of braces is outside of them again behind a text, and these are the
    values that its chunks are read as. -/
structure Finds (text : List Char) (values : List Json) : Prop where
  after_eq : after {} text = {}
  filterMap_run : (run {} text).filterMap Json.read? = values

/-- What is found in two texts one after another is found in each of them. -/
theorem Finds.append {a b : List Char} {xs ys : List Json} (ha : Finds a xs) (hb : Finds b ys) :
    Finds (a ++ b) (xs ++ ys) where
  after_eq := by rw [after_append, ha.after_eq, hb.after_eq]
  filterMap_run := by
    rw [run_append, ha.after_eq, List.filterMap_append, ha.filterMap_run, hb.filterMap_run]

/-- Of several texts one after another, each is searched as if it stood alone. -/
theorem finds_flatMap {α : Type} {text : α → List Char} {values : α → List Json} {parts : List α}
    (h : ∀ x ∈ parts, Finds (text x) (values x)) :
    Finds (parts.flatMap text) (parts.flatMap values) := by
  induction parts with
  | nil => exact ⟨rfl, rfl⟩
  | cons x rest ih =>
    rw [List.forall_mem_cons] at h
    rw [List.flatMap_cons, List.flatMap_cons]
    exact h.1.append (ih h.2)

/-- Nothing is found in a text without an opening brace, not even a string that it leaves open. -/
theorem finds_outside {text : List Char} (h : ∀ c ∈ text, c ≠ '\x7b') : Finds text [] := by
  obtain ⟨hafter, hrun⟩ := after_outside h
  exact ⟨hafter, by simp [hrun]⟩

/-- Nothing is found in spaces. -/
theorem finds_spaces {sp : List Char} (hsp : Json.Spaces sp) : Finds sp [] := by
  apply finds_outside
  rintro c hc rfl
  cases hsp _ hc

/-- In a balanced text its own value is found, if it has one. -/
theorem Balanced.finds {text : List Char} (h : Balanced text) :
    Finds text ([text].filterMap Json.read?) := by
  obtain ⟨hafter, hrun⟩ := h.run_eq
  exact ⟨hafter, by rw [hrun]⟩

/-- In the text of an object that object is found, also with spaces around it. -/
theorem finds_of_read? {text : List Char} {fields : Fields}
    (h : Json.read? text = some (.obj fields)) : Finds text [.obj fields] := by
  obtain ⟨sp, core, sp', hsp, hsp', hspells, rfl, hread⟩ := Json.exists_spells_of_read? h
  have hcore := (balanced_of_spells hspells).finds
  rw [List.filterMap_cons_some hread, List.filterMap_nil] at hcore
  simpa using (finds_spaces hsp).append (hcore.append (finds_spaces hsp'))

/-- Chunks have values as far as they spell them, if no limit is met in any of them. -/
theorem chunkValues_eq_ok_iff {chunks : List (List Char)} {found : List Json} :
    chunkValues chunks = .ok found
      ↔ (∀ chunk ∈ chunks, Json.WithinLimits chunk) ∧ found = chunks.filterMap Json.read? := by
  induction chunks generalizing found with
  | nil => simp [chunkValues, eq_comm]
  | cons chunk rest ih =>
    rw [List.forall_mem_cons]
    cases hattempt : Json.attempt chunk with
    | error limit =>
      -- a limit in the first chunk ends the reading
      have hbeyond : ¬ Json.WithinLimits chunk := by
        rintro ⟨value, hvalue⟩
        rw [hattempt] at hvalue
        cases hvalue
      simp [chunkValues, hattempt, hbeyond]
    | ok value =>
      have hwithin : Json.WithinLimits chunk := ⟨value, hattempt⟩
      rw [chunkValues, hattempt, Json.attempt_eq hattempt]
      constructor
      · intro h
        obtain ⟨more, hmore, rfl⟩ := map_eq_ok_iff.mp h
        obtain ⟨hrest, rfl⟩ := ih.mp hmore
        refine ⟨⟨hwithin, hrest⟩, ?_⟩
        cases hread : Json.read? chunk <;> simp [hread]
      · rintro ⟨⟨-, hrest⟩, rfl⟩
        refine map_eq_ok_iff.mpr ⟨_, ih.mpr ⟨hrest, rfl⟩, ?_⟩
        cases hread : Json.read? chunk <;> simp [hread]

/-- The reading by braces gives what is found, or gives way where nothing is, if no limit is met in
    any chunk. -/
theorem Finds.objectCandidates_eq_ok_iff {text : List Char} {values : List Json}
    (h : Finds text values) {found : Option (List Json)} :
    objectCandidates text = .ok found
      ↔ (∀ chunk ∈ braceChunks text, Json.WithinLimits chunk)
        ∧ found = if values.isEmpty then none else some values := by
  have hchunks : (braceChunks text).filterMap Json.read? = values := h.filterMap_run
  rw [objectCandidates, map_eq_ok_iff]
  constructor
  · rintro ⟨all, hall, rfl⟩
    obtain ⟨hwithin, rfl⟩ := chunkValues_eq_ok_iff.mp hall
    exact ⟨hwithin, by rw [hchunks]⟩
  · rintro ⟨hwithin, rfl⟩
    exact ⟨values, chunkValues_eq_ok_iff.mpr ⟨hwithin, hchunks.symm⟩, rfl⟩

end BraceScan

end PlainScan

import Mathlib.Data.List.Chain
import Mathlib.Tactic.IntervalCases
import PlainScan.Proofs.Analysis.Tags

namespace PlainScan

/-!
# Heading hierarchy

The headings of a page are read from left to right: the next one is the first place where the
opening tag of a heading stands, and the reading goes on behind the angle that closes it.  Tags that
look alike, that are not closed or that stand inside of another one do not count.

* `HeadingTag` — the opening tag of a heading, `StartsHeading` — a text that begins with one.
* `HeadingsIn` — the headings of a text, read in this way.
* `headings_eq_iff` — they are what the search finds.
* `skipsOf_eq`, `skipsOf_eq_nil_iff` — the skips, from the pairs of neighbours.
* `headingSkips_spec` — both together.
-/

open Pattern

/-! ### Tags -/

/-- The opening tag of a heading: the letter in either case, the level, and all that follows up to
    the first closing angle.  The level is not the beginning of a word. -/
structure HeadingTag where
  letter : Char
  level : Nat
  inside : List Char
  letter_eq : letter = 'h' ∨ letter = 'H'
  level_pos : 1 ≤ level
  level_le : level ≤ 6
  apart : ∀ c ∈ inside.head?, Text.isWord c = false
  isOpen : ∀ c ∈ inside, c ≠ '>'

/-- The tag as it is written. -/
def HeadingTag.text (t : HeadingTag) : List Char :=
  '<' :: t.letter :: t.level.digitChar :: (t.inside ++ ['>'])

/-- A text begins with the opening tag of a heading. -/
def StartsHeading (text : List Char) : Prop := ∃ t : HeadingTag, t.text <+: text

/-- No heading starts in a gap; what follows it may belong to the tag. -/
def NoHeadingIn (gap rest : List Char) : Prop :=
  ∀ part, part <:+ gap → part ≠ [] → ¬ StartsHeading (part ++ rest)

/-- The headings of a text, given what stands before it.  Either none starts anywhere, or the first
    one starts behind a gap and the others are read behind its tag. -/
inductive HeadingsIn : List Char → List Char → List Heading → Prop
  | none {before text : List Char} (hnone : NoHeadingIn text []) : HeadingsIn before text []
  | next {before gap rest : List Char} {t : HeadingTag} {more : List Heading}
      (hgap : NoHeadingIn gap (t.text ++ rest))
      (hmore : HeadingsIn (before ++ gap ++ t.text) rest more) :
      HeadingsIn before (gap ++ (t.text ++ rest))
        (⟨t.level, (before ++ gap).count '\n' + 1⟩ :: more)

/-! ### Matching -/

/-- The letter of a heading in either case. -/
theorem sameLetter_h_iff {c : Char} : sameLetter 'h' c = true ↔ c = 'h' ∨ c = 'H' := by
  constructor
  · intro h
    have hlower : c.toLower = 'h' := by simpa [sameLetter] using h
    by_cases hupper : c.isUpper = true
    · have hcode := toNat_toLower_of_isUpper hupper
      rw [hlower, show 'h'.toNat = 104 from rfl] at hcode
      refine .inr (Char.toNat_inj.mp ?_)
      show c.toNat = 72
      omega
    · rw [toLower_of_not_isUpper (Bool.eq_false_iff.mpr hupper)] at hlower
      exact .inl hlower
  · rintro (rfl | rfl) <;> decide

/-- The levels are the digits from one to six. -/
theorem isLevel_iff {c : Char} :
    isLevel c = true ↔ ∃ level, 1 ≤ level ∧ level ≤ 6 ∧ c = Nat.digitChar level := by
  constructor
  · intro h
    rw [isLevel, Bool.and_eq_true, decide_eq_true_eq, decide_eq_true_eq] at h
    have hlow : 49 ≤ c.toNat := h.1
    have hhigh : c.toNat ≤ 54 := h.2
    refine ⟨c.toNat - 48, by omega, by omega, Char.toNat_inj.mp ?_⟩
    generalize c.toNat = n at hlow hhigh
    interval_cases n <;> rfl
  · rintro ⟨level, hpos, hle, rfl⟩
    interval_cases level <;> rfl

/-- A level is read back from its digit. -/
theorem HeadingTag.toNat_digitChar (t : HeadingTag) :
    t.level.digitChar.toNat - '0'.toNat = t.level := by
  have hpos := t.level_pos
  have hle := t.level_le
  generalize t.level = level at hpos hle
  interval_cases level <;> rfl

/-- A level belongs to a word. -/
theorem isWord_of_isLevel {c : Char} (h : isLevel c = true) : Text.isWord c = true := by
  obtain ⟨level, hpos, hle, rfl⟩ := isLevel_iff.mp h
  interval_cases level <;> rfl

/-- A level is not the beginning of a word exactly if no character of a word comes next. -/
theorem isWordEdge_behindLevel {digit : Char} (h : isLevel digit = true)
    (before after : List Char) :
    (Cursor.mk (digit :: before) after).isWordEdge = true ↔
      ∀ c ∈ after.head?, Text.isWord c = false := by
  have hdigit : Text.isWordAt (some digit) = true := isWord_of_isLevel h
  rw [Cursor.isWordEdge, Text.atWordEdge, List.head?_cons, hdigit]
  cases after with
  | nil => simp [Text.isWordAt]
  | cons c rest => simp [Text.isWordAt]

/-- The parts of the pattern one after another. -/
theorem headingPattern_eq :
    headingPattern = seq (one (· == '<')) (seq (one (sameLetter 'h')) (seq (one isLevel)
      (seq wordEdge (seq insideTag (literal ">"))))) := rfl

/-- The opening tag of a heading is taken as a whole. -/
theorem HeadingTag.ends_headingPattern (t : HeadingTag) (before rest : List Char) :
    headingPattern.ends ⟨before, t.text ++ rest⟩ = [⟨t.text.reverse ++ before, rest⟩] := by
  have hlevel : isLevel t.level.digitChar = true :=
    isLevel_iff.mpr ⟨t.level, t.level_pos, t.level_le, rfl⟩
  have hletter : sameLetter 'h' t.letter = true := sameLetter_h_iff.mpr t.letter_eq
  have htext : t.text ++ rest
      = '<' :: t.letter :: t.level.digitChar :: (t.inside ++ '>' :: rest) := by
    simp [text]
  have hreverse : t.text.reverse ++ before
      = '>' :: (t.inside.reverse ++ t.level.digitChar :: t.letter :: '<' :: before) := by
    simp [text]
  have hapart : ∀ c ∈ (t.inside ++ '>' :: rest).head?, Text.isWord c = false := by
    cases hinside : t.inside with
    | nil => simp [show Text.isWord '>' = false from rfl]
    | cons c more =>
      have happart := t.apart
      rw [hinside] at happart
      exact happart
  have hedge := (isWordEdge_behindLevel hlevel (t.letter :: '<' :: before) _).mpr hapart
  have hangle : ∀ after, (one (· == '<')).ends ⟨before, '<' :: after⟩ = [⟨'<' :: before, after⟩] :=
    ends_one_cons (beq_self_eq_true '<') before
  -- the first three characters are taken one by one, and the edge of the level takes none
  rw [headingPattern_eq, htext, hreverse, ends_seq_of_eq (hangle _),
    ends_seq_of_eq (ends_one_cons hletter _ _), ends_seq_of_eq (ends_one_cons hlevel _ _),
    ends_seq_of_eq (by rw [ends, if_pos hedge])]
  exact ends_upToAngle t.isOpen (Nat.zero_le _) _ rest

/-- Nothing but the opening tag of a heading is taken. -/
theorem startsHeading_of_mem_ends {c d : Cursor} (h : d ∈ headingPattern.ends c) :
    StartsHeading c.after := by
  rw [headingPattern_eq] at h
  -- the angle, the letter, the level and the edge of a word, one after another
  obtain ⟨c₁, hangle, h₁⟩ := (mem_ends_seq _ _ _ _).mp h
  obtain ⟨angle, hopening, hafter, -⟩ := mem_ends_one.mp hangle
  obtain ⟨c₂, hletter, h₂⟩ := (mem_ends_seq _ _ _ _).mp h₁
  obtain ⟨letter, hsame, hafter₁, -⟩ := mem_ends_one.mp hletter
  obtain ⟨⟨before, after⟩, hdigit, h₃⟩ := (mem_ends_seq _ _ _ _).mp h₂
  obtain ⟨digit, hlevel, hafter₂, hbefore₂⟩ := mem_ends_one.mp hdigit
  obtain ⟨c₄, hedge, h₄⟩ := (mem_ends_seq _ _ _ _).mp h₃
  obtain ⟨hwordEdge, rfl⟩ := mem_ends_wordEdge.mp hedge
  obtain rfl : before = digit :: c₂.before := hbefore₂
  obtain rfl : angle = '<' := by simpa using hopening
  -- the tag is closed somewhere, or there would be no end
  by_cases hclosed : '>' ∈ after
  · obtain ⟨inside, rest, rfl, hopen⟩ := List.eq_append_cons_of_mem hclosed
    obtain ⟨level, hpos, hle, rfl⟩ := isLevel_iff.mp hlevel
    have hbehind := (isWordEdge_behindLevel hlevel _ _).mp hwordEdge
    have hapart : ∀ c ∈ inside.head?, Text.isWord c = false := by
      cases inside with
      | nil => simp
      | cons c more => exact hbehind
    have hisOpen : ∀ c ∈ inside, c ≠ '>' := fun c hc hangle => hopen (hangle ▸ hc)
    have hletter := sameLetter_h_iff.mp hsame
    refine ⟨⟨letter, level, inside, hletter, hpos, hle, hapart, hisOpen⟩, rest, ?_⟩
    rw [hafter, hafter₁, hafter₂]
    simp [HeadingTag.text]
  · have hopen : ∀ c ∈ after, c ≠ '>' := fun c hc hangle => hclosed (hangle ▸ hc)
    have hnone := ends_upToAngle_of_none hopen 0 (digit :: c₂.before)
    rw [insideTag, hnone] at h₄
    exact absurd h₄ List.not_mem_nil

/-- Where no heading starts there is no match. -/
theorem ends_headingPattern_eq_nil_iff {before after : List Char} :
    headingPattern.ends ⟨before, after⟩ = [] ↔ ¬ StartsHeading after := by
  constructor
  · rintro hnil ⟨t, rest, rfl⟩
    rw [t.ends_headingPattern] at hnil
    cases hnil
  · intro hnone
    rw [List.eq_nil_iff_forall_not_mem]
    exact fun d hd => hnone (startsHeading_of_mem_ends hd)

/-! ### The search -/

/-- A match is the opening tag of a heading, and its level is read off. -/
theorem HeadingTag.ofOccurrence (t : HeadingTag) (before rest : List Char) (stop : Cursor) :
    Heading.ofOccurrence ⟨⟨before, t.text ++ rest⟩, stop⟩ = ⟨t.level, before.count '\n' + 1⟩ := by
  rw [Heading.ofOccurrence, ← t.toNat_digitChar]
  rfl

/-- **The run.** What the search finds from a place on are the headings of the rest of the text. -/
theorem headingsIn_findAllFrom {fuel : Nat} {before after : List Char} (h : after.length < fuel) :
    HeadingsIn before after
      ((headingPattern.findAllFrom fuel ⟨before.reverse, after⟩).map Heading.ofOccurrence) := by
  -- on the steps of the search, which are more than the characters that are left
  induction fuel generalizing before after with
  | zero => cases h
  | succ fuel ih =>
    cases hfind : headingPattern.findFrom before.reverse after with
    | none =>
      rw [findAllFrom_of_none hfind]
      refine .none fun rest ⟨front, htext⟩ _ => ?_
      rw [← ends_headingPattern_eq_nil_iff, List.append_nil]
      exact findFrom_eq_none_iff.mp hfind front rest htext.symm
    | some m =>
      obtain ⟨gap, rest, rfl, hstart, hhead, hgap⟩ := findFrom_eq_some_iff.mp hfind
      obtain ⟨start, stop⟩ := m
      obtain rfl : start = ⟨gap.reverse ++ before.reverse, rest⟩ := hstart
      -- a heading starts where the match does, and the match takes all of its tag
      have hstarts : StartsHeading rest := startsHeading_of_mem_ends (List.mem_of_head? hhead)
      obtain ⟨t, more, rfl⟩ := hstarts
      rw [t.ends_headingPattern, List.head?_cons, Option.some.injEq] at hhead
      subst hhead
      have hlength : more.length < (t.text ++ more).length := by
        rw [List.length_append]
        exact Nat.lt_add_of_pos_left (Nat.succ_pos _)
      rw [findAllFrom_of_some hfind hlength, List.map_cons, t.ofOccurrence]
      have hbefore : t.text.reverse ++ (gap.reverse ++ before.reverse)
          = (before ++ gap ++ t.text).reverse := by
        simp
      have hline : (gap.reverse ++ before.reverse).count '\n' = (before ++ gap).count '\n' := by
        rw [← List.reverse_append, List.count_reverse]
      rw [hline, hbefore]
      -- no heading starts before the match, and the search goes on behind it
      refine .next ?_ (ih ?_)
      · rintro part ⟨front, rfl⟩ hne
        rw [← ends_headingPattern_eq_nil_iff]
        refine hgap front _ (List.append_assoc _ _ _) ?_
        rw [List.length_append]
        exact Nat.lt_add_of_pos_right (List.length_pos_of_ne_nil hne)
      · rw [List.length_append] at h
        omega

/-- A gap without headings ends at the latest where one starts. -/
theorem NoHeadingIn.length_le {gap front rest behind : List Char} {t : HeadingTag}
    (hgap : NoHeadingIn gap behind) (htext : front ++ (t.text ++ rest) = gap ++ behind) :
    gap.length ≤ front.length := by
  by_contra hlt
  rcases List.append_eq_append_iff.mp htext with ⟨part, hpart, hbehind⟩ | ⟨part, hpart, -⟩
  · have hne : part ≠ [] := by
      rintro rfl
      simp [hpart] at hlt
    exact hgap part ⟨front, hpart.symm⟩ hne ⟨t, rest, hbehind⟩
  · rw [hpart, List.length_append] at hlt
    omega

/-- A tag is known by its text and what follows. -/
theorem HeadingTag.eq_of_append_eq {t t' : HeadingTag} {rest rest' : List Char}
    (h : t.text ++ rest = t'.text ++ rest') :
    t.level = t'.level ∧ t.text = t'.text ∧ rest = rest' := by
  have hends := t.ends_headingPattern [] rest
  rw [h, t'.ends_headingPattern] at hends
  simp only [List.append_nil, List.cons.injEq, Cursor.mk.injEq, List.reverse_inj, and_true] at hends
  have hdigit : t.level.digitChar = t'.level.digitChar := by
    have htext := hends.1.symm
    rw [text, text] at htext
    exact (List.cons.inj (List.cons.inj (List.cons.inj htext).2).2).1
  refine ⟨?_, hends.1.symm, hends.2.symm⟩
  rw [← t.toNat_digitChar, hdigit, t'.toNat_digitChar]

/-- A text can be read in one way only. -/
theorem HeadingsIn.unique {before text : List Char} {one other : List Heading}
    (hone : HeadingsIn before text one) (hother : HeadingsIn before text other) : one = other := by
  induction hone generalizing other with
  | none hnone =>
    cases hother with
    | none => rfl
    | @next _ gap rest t more hgap hmore =>
      have hle := hnone.length_le (List.append_nil _).symm
      simp [HeadingTag.text] at hle
  | @next before gap rest t more hgap hmore ih =>
    generalize htext : gap ++ (t.text ++ rest) = text at hother
    cases hother with
    | none hnone =>
      have hle := hnone.length_le (htext.trans (List.append_nil _).symm)
      rw [← htext] at hle
      simp [HeadingTag.text] at hle
    | @next _ gap' rest' t' more' hgap' hmore' =>
      -- the first heading starts at the same place and has the same tag
      have hlength : gap.length = gap'.length :=
        Nat.le_antisymm (hgap.length_le htext.symm) (hgap'.length_le htext)
      obtain ⟨rfl, hbehind⟩ := List.append_inj htext hlength
      obtain ⟨hlevel, htag, rfl⟩ := HeadingTag.eq_of_append_eq hbehind
      rw [← htag] at hmore'
      rw [hlevel, ih hmore']

/-- **Headings.** The headings that are found are those of the text. -/
theorem headings_eq_iff {text : List Char} {found : List Heading} :
    headings text = found ↔ HeadingsIn [] text found := by
  have hheadings : HeadingsIn [] text (headings text) :=
    headingsIn_findAllFrom (Nat.lt_succ_self text.length)
  constructor
  · rintro rfl
    exact hheadings
  · exact hheadings.unique

/-! ### Skips -/

/-- The second of two headings in a row lies more than one level below the first. -/
def Heading.SkipsTo (a b : Heading) : Prop := a.level + 1 < b.level

instance (a b : Heading) : Decidable (a.SkipsTo b) := inferInstanceAs (Decidable (_ < _))

/-- The skip from one heading to the next. -/
def HeadingSkip.of (a b : Heading) : HeadingSkip := ⟨a.level, b.level, a.level + 1, b.line⟩

/-- A pair of neighbours is reported exactly if it skips a level. -/
theorem HeadingSkip.between?_toList (a b : Heading) :
    (HeadingSkip.between? a b).toList = if a.SkipsTo b then [HeadingSkip.of a b] else [] := by
  rw [HeadingSkip.between?]
  by_cases hskips : a.level + 1 < b.level
  · rw [if_pos hskips, if_pos (show a.SkipsTo b from hskips)]
    rfl
  · rw [if_neg hskips, if_neg (show ¬ a.SkipsTo b from hskips)]
    rfl

/-- The skips are those pairs of neighbours that skip a level. -/
theorem skipsOf_eq (found : List Heading) :
    skipsOf found = ((found.zip found.tail).filter fun p => p.1.SkipsTo p.2).map
      fun p => HeadingSkip.of p.1 p.2 := by
  induction found with
  | nil => rfl
  | cons a rest ih =>
    cases rest with
    | nil => rfl
    | cons b rest =>
      have hzip : (a :: b :: rest).zip (a :: b :: rest).tail
          = (a, b) :: (b :: rest).zip (b :: rest).tail := rfl
      rw [skipsOf, ih, HeadingSkip.between?_toList, hzip, List.filter_cons]
      split
      · rw [if_pos (decide_eq_true ‹a.SkipsTo b›)]
        rfl
      · rw [if_neg (by simpa using ‹¬ a.SkipsTo b›)]
        rfl

/-- There is none if every heading is at most one level below the one before it. -/
theorem skipsOf_eq_nil_iff (found : List Heading) :
    skipsOf found = [] ↔ found.IsChain fun a b => b.level ≤ a.level + 1 := by
  induction found with
  | nil => simp [skipsOf]
  | cons a rest ih =>
    cases rest with
    | nil => simp [skipsOf]
    | cons b rest =>
      rw [skipsOf, List.append_eq_nil_iff, ih, List.isChain_cons_cons, HeadingSkip.between?_toList]
      have hnil : (if a.SkipsTo b then [HeadingSkip.of a b] else []) = [] ↔ ¬ a.SkipsTo b := by simp
      rw [hnil, Heading.SkipsTo, Nat.not_lt]

/-- A skip leads from a heading to the next one, which lies more than one level below. -/
theorem mem_skipsOf_iff {found : List Heading} {skip : HeadingSkip} :
    skip ∈ skipsOf found ↔ ∃ (i : Nat) (a b : Heading),
      found[i]? = some a ∧ found[i + 1]? = some b ∧ a.SkipsTo b ∧ skip = HeadingSkip.of a b := by
  rw [skipsOf_eq]
  constructor
  · intro hskip
    obtain ⟨⟨a, b⟩, hpair, rfl⟩ := List.mem_map.mp hskip
    obtain ⟨hmem, hskips⟩ := List.mem_filter.mp hpair
    obtain ⟨i, hi⟩ := List.mem_iff_getElem?.mp hmem
    rw [List.getElem?_zip_eq_some, List.getElem?_tail] at hi
    exact ⟨i, a, b, hi.1, hi.2, of_decide_eq_true hskips, rfl⟩
  · rintro ⟨i, a, b, ha, hb, hskips, rfl⟩
    refine List.mem_map.mpr ⟨(a, b), List.mem_filter.mpr ⟨?_, decide_eq_true hskips⟩, rfl⟩
    rw [List.mem_iff_getElem?]
    refine ⟨i, ?_⟩
    rw [List.getElem?_zip_eq_some, List.getElem?_tail]
    exact ⟨ha, hb⟩

/-- **Heading hierarchy.**  A text can be read in one way, and its skips are the pairs of headings
    in a row whose level grows by more than one, in their order. -/
theorem headingSkips_spec (text : List Char) :
    ∃ found : List Heading, (∀ other, HeadingsIn [] text other ↔ other = found) ∧
      headingSkips text = ((found.zip found.tail).filter fun p => p.1.level + 1 < p.2.level).map
        (fun p => ⟨p.1.level, p.2.level, p.1.level + 1, p.2.line⟩) ∧
      (headingSkips text = [] ↔ found.IsChain fun a b => b.level ≤ a.level + 1) ∧
      ∀ skip, skip ∈ headingSkips text ↔ ∃ (i : Nat) (a b : Heading),
        found[i]? = some a ∧ found[i + 1]? = some b ∧ a.level + 1 < b.level ∧
          skip = ⟨a.level, b.level, a.level + 1, b.line⟩ := by
  refine ⟨headings text, fun other => ?_, skipsOf_eq _, skipsOf_eq_nil_iff _, fun _ =>
    mem_skipsOf_iff⟩
  rw [← headings_eq_iff]
  exact eq_comm

example : headingSkips "<h1>a</h1>\n<h3>b</h3><h1x><H5 id>".toList
    = [⟨1, 3, 2, 2⟩, ⟨3, 5, 4, 2⟩] := by
  decide +kernel

end PlainScan

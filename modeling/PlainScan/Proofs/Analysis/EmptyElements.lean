import PlainScan.Proofs.Analysis.Tags

namespace PlainScan.Accessibility

/-!
# Empty elements

The check for elements without a text lets other tags stand between the opening tag of an element
and its closing tag, whichever they are.  So in a page of empty elements it takes as one element all
that stands up to the last closing tag with the same name, and what is in between is not reported.

* `EmptyElement`, `page` — an element with nothing in it, and a page with one in each line.
* `head?_ends_emptyElement` — up to where an element is taken.
* `reportedLines` — the lines that are reported: the first, and on behind what it takes.
* `lines_findAllFrom` — the search finds what is in these lines.
* `emptyElements_reported_iff` — when all elements are reported.
-/

open Pattern

/-! ### Elements -/

/-- The elements that must have a text. -/
inductive InteractiveTag where
  | button
  | link
  deriving DecidableEq, Repr

/-- The name of an element. -/
def InteractiveTag.name : InteractiveTag → String
  | button => "button"
  | link => "a"

/-- The names are in lower case. -/
theorem InteractiveTag.isTagName_name (tag : InteractiveTag) : IsTagName tag.name := by
  cases tag <;> exact ⟨by decide, by decide⟩

/-- An element with nothing in it, and with attributes in which there are no angles and no line
    feed.  A blank stands between the name and the attributes, if there are any. -/
structure EmptyElement where
  tag : InteractiveTag
  attributes : List Char
  inside : ∀ c ∈ attributes, c ≠ '<' ∧ c ≠ '>' ∧ c ≠ '\n'
  apart : ∀ c ∈ attributes.head?, Text.isBlank c = true

namespace EmptyElement

/-- The opening tag. -/
def opening (e : EmptyElement) : List Char :=
  '<' :: (e.tag.name.toList ++ (e.attributes ++ ['>']))

/-- The closing tag. -/
def closing (e : EmptyElement) : List Char := '<' :: '/' :: (e.tag.name.toList ++ ['>'])

/-- The element as it is written. -/
def text (e : EmptyElement) : List Char := e.opening ++ e.closing

/-- An element is written in one line. -/
theorem count_text (e : EmptyElement) : e.text.count '\n' = 0 := by
  have hattributes : e.attributes.count '\n' = 0 :=
    List.count_eq_zero.mpr fun h => (e.inside '\n' h).2.2 rfl
  have hname : e.tag.name.toList.count '\n' = 0 := by
    cases e.tag <;> decide
  simp [text, opening, closing, hattributes, hname]

end EmptyElement

/-- A page with an element in each line. -/
def page (elements : List EmptyElement) : List Char :=
  ['\n'].intercalate (elements.map EmptyElement.text)

/-- The further lines of a page. -/
def furtherLines (elements : List EmptyElement) : List Char :=
  elements.flatMap fun e => '\n' :: e.text

theorem page_cons (e : EmptyElement) (rest : List EmptyElement) :
    page (e :: rest) = e.text ++ furtherLines rest := by
  induction rest generalizing e with
  | nil => simp [page, furtherLines]
  | cons next rest ih =>
    have hpage : page (e :: next :: rest) = e.text ++ ('\n' :: page (next :: rest)) := by
      simp [page]
    rw [hpage, ih, furtherLines, furtherLines, List.flatMap_cons, List.cons_append]

theorem furtherLines_cons (e : EmptyElement) (rest : List EmptyElement) :
    furtherLines (e :: rest) = '\n' :: (e.text ++ furtherLines rest) := rfl

/-- There are as many line feeds as further lines. -/
theorem count_furtherLines (elements : List EmptyElement) :
    (furtherLines elements).count '\n' = elements.length := by
  induction elements with
  | nil => rfl
  | cons e rest ih =>
    rw [furtherLines_cons, List.count_cons_self, List.count_append, e.count_text, ih,
      List.length_cons]
    omega

/-! ### Tags -/

/-- A tag with blanks before it. -/
def anyTag : Pattern := all [blanks, literal "<", run (· != '>') 1, literal ">"]

/-- The closing tag of an element with blanks before it. -/
def closingTag (tag : InteractiveTag) : Pattern :=
  all [blanks, literal "</", literalAnyCase tag.name, literal ">"]

/-- What may stand behind the opening tag of an element: other tags and the closing tag. -/
def remainder (tag : InteractiveTag) : Pattern := seq (star anyTag) (closingTag tag)

theorem emptyElement_eq (tag : InteractiveTag) :
    emptyElement tag.name = seq (openingTag tag.name) (seq restOfTag (remainder tag)) := rfl

/-- A tag begins with an angle. -/
theorem beginsWith_tag :
    (all [literal "<", run (· != '>') 1, literal ">"]).BeginsWith (· == '<') :=
  (BeginsWith.one _).seq _

/-- So does a closing tag. -/
theorem beginsWith_closing (tag : InteractiveTag) :
    (all [literal "</", literalAnyCase tag.name, literal ">"]).BeginsWith (· == '<') :=
  ((BeginsWith.one _).seq _).seq _

/-- No blank is an angle. -/
theorem beq_angle_of_isBlank {c : Char} (h : Text.isBlank c = true) : (c == '<') = false := by
  rw [beq_eq_false_iff_ne]
  rintro rfl
  cases h

/-- Blanks in front of something that begins with an angle are all taken. -/
theorem ends_blanks_seq {p : Pattern} (hp : p.BeginsWith (· == '<')) {w : List Char}
    (hw : Text.isBlankText w = true) (before rest : List Char)
    (hrest : rest.head?.any Text.isBlank = false) :
    (seq blanks p).ends ⟨before, w ++ rest⟩ = p.ends ⟨w.reverse ++ before, rest⟩ :=
  ends_run_seq hp (fun _ => beq_angle_of_isBlank) (List.all_eq_true.mp hw) hrest (Nat.zero_le _)
    before

/-- Blanks alone hold nothing of the kind. -/
theorem ends_blanks_seq_of_blank {p : Pattern} (hp : p.BeginsWith (· == '<')) {w : List Char}
    (hw : Text.isBlankText w = true) (before : List Char) :
    (seq blanks p).ends ⟨before, w⟩ = [] := by
  have hend := ends_blanks_seq hp hw before [] rfl
  rw [List.append_nil] at hend
  rw [hend]
  exact hp _ [] rfl

/-- A tag is taken with the blanks before it. -/
theorem ends_anyTag {w u : List Char} (hw : Text.isBlankText w = true) (hu : ∀ c ∈ u, c ≠ '>')
    (hne : u ≠ []) (before rest : List Char) :
    anyTag.ends ⟨before, w ++ '<' :: (u ++ '>' :: rest)⟩
      = [⟨'>' :: (u.reverse ++ '<' :: (w.reverse ++ before)), rest⟩] := by
  have hopen : (literal "<").ends ⟨w.reverse ++ before, '<' :: (u ++ '>' :: rest)⟩
      = [⟨'<' :: (w.reverse ++ before), u ++ '>' :: rest⟩] := rfl
  rw [anyTag, ends_all_cons, ends_blanks_seq beginsWith_tag hw before _ rfl, ends_all_cons,
    ends_seq_of_eq hopen]
  exact ends_upToAngle hu (List.length_pos_of_ne_nil hne) _ rest

namespace EmptyElement

variable (e : EmptyElement)

theorem name_ne_angle : ∀ c ∈ e.tag.name.toList, c ≠ '>' := by
  cases e.tag <;> simp [InteractiveTag.name]

theorem length_lt_closing_append (rest : List Char) :
    rest.length < (e.closing ++ rest).length := by
  rw [List.length_append]
  exact Nat.lt_add_of_pos_left (Nat.succ_pos _)

/-- What follows the name of an element belongs to no word. -/
theorem isWordAt_behind_name (rest : List Char) :
    Text.isWordAt (e.attributes ++ '>' :: rest).head? = false := by
  cases hattributes : e.attributes with
  | nil => rfl
  | cons c more =>
    have hblank : Text.isBlank c = true := e.apart c (by rw [hattributes]; rfl)
    exact Text.isWord_eq_false_of_isBlank hblank

/-- An element begins with its own opening tag. -/
theorem ends_openingTag (before rest : List Char) :
    (openingTag e.tag.name).ends
        ⟨before, '<' :: (e.tag.name.toList ++ (e.attributes ++ '>' :: rest))⟩
      = [⟨e.tag.name.toList.reverse ++ '<' :: before, e.attributes ++ '>' :: rest⟩] :=
  ends_openingTag_of_name e.tag.isTagName_name (e.isWordAt_behind_name rest) before

/-- Behind the opening tag of an element the match goes on with what is in it. -/
theorem ends_opening (p : Pattern) (before rest : List Char) :
    (seq (openingTag e.tag.name) (seq restOfTag p)).ends ⟨before, e.text ++ rest⟩
      = p.ends ⟨e.opening.reverse ++ before, e.closing ++ rest⟩ := by
  have htext : e.text ++ rest
      = '<' :: (e.tag.name.toList ++ (e.attributes ++ '>' :: (e.closing ++ rest))) := by
    simp [text, opening]
  have hrest := ends_upToAngle (fun c hc => (e.inside c hc).2.1) (Nat.zero_le _)
    (e.tag.name.toList.reverse ++ '<' :: before) (e.closing ++ rest)
  have hbefore : '>' :: (e.attributes.reverse ++ (e.tag.name.toList.reverse ++ '<' :: before))
      = e.opening.reverse ++ before := by
    simp [opening]
  rw [htext, ends_seq_of_eq (e.ends_openingTag before _), ← hbefore]
  exact ends_seq_of_eq hrest p

/-- The closing tag of an element is a tag. -/
theorem ends_anyTag_closing (before rest : List Char) :
    anyTag.ends ⟨before, e.closing ++ rest⟩ = [⟨e.closing.reverse ++ before, rest⟩] := by
  have hslash : ∀ c ∈ '/' :: e.tag.name.toList, c ≠ '>' := by
    rw [List.forall_mem_cons]
    exact ⟨by decide, e.name_ne_angle⟩
  have htag := ends_anyTag (w := []) rfl hslash (List.cons_ne_nil _ _) before rest
  simpa [closing] using htag

/-- The opening tag of an element is one, with the line feed before it. -/
theorem ends_anyTag_opening (before rest : List Char) :
    anyTag.ends ⟨before, '\n' :: (e.text ++ rest)⟩
      = [⟨e.opening.reverse ++ '\n' :: before, e.closing ++ rest⟩] := by
  have hinside : ∀ c ∈ e.tag.name.toList ++ e.attributes, c ≠ '>' := by
    intro c hc
    rcases List.mem_append.mp hc with hname | hattribute
    · exact e.name_ne_angle c hname
    · exact (e.inside c hattribute).2.1
  have hne : e.tag.name.toList ++ e.attributes ≠ [] := by
    cases e.tag <;> simp [InteractiveTag.name]
  have htag := ends_anyTag (w := ['\n']) rfl hinside hne before (e.closing ++ rest)
  simpa [text, opening] using htag

/-- The closing tag of an element closes it and no other. -/
theorem ends_closingTag_closing (tag : InteractiveTag) (before rest : List Char) :
    (closingTag tag).ends ⟨before, e.closing ++ rest⟩
      = if e.tag = tag then [⟨e.closing.reverse ++ before, rest⟩] else [] := by
  have hblanks := ends_blanks_seq (beginsWith_closing tag) (w := []) rfl before (e.closing ++ rest)
    rfl
  refine hblanks.trans ?_
  rw [closing]
  cases e.tag <;> cases tag <;> rfl

/-- An opening tag closes nothing. -/
theorem ends_closingTag_opening (tag : InteractiveTag) (before rest : List Char) :
    (closingTag tag).ends ⟨before, '\n' :: (e.text ++ rest)⟩ = [] := by
  have hblanks := ends_blanks_seq (beginsWith_closing tag) (w := ['\n']) rfl before (e.text ++ rest)
    rfl
  refine hblanks.trans ?_
  rw [text, opening]
  cases e.tag <;> rfl

end EmptyElement

/-! ### What an element is taken to be -/

/-- How many of some elements stand up to the last one with a tag. -/
def reach (tag : InteractiveTag) : List EmptyElement → Nat
  | [] => 0
  | e :: rest => if e.tag = tag ∨ reach tag rest ≠ 0 then reach tag rest + 1 else 0

/-- None do if none has the tag. -/
theorem reach_eq_zero_iff {tag : InteractiveTag} {elements : List EmptyElement} :
    reach tag elements = 0 ↔ tag ∉ elements.map EmptyElement.tag := by
  induction elements with
  | nil => simp [reach]
  | cons e rest ih =>
    rw [List.map_cons, List.mem_cons, not_or, ← ih, reach]
    split
    · next hreach =>
      refine iff_of_false (Nat.succ_ne_zero _) fun ⟨hne, hzero⟩ => ?_
      rcases hreach with htag | hrest
      · exact hne htag.symm
      · exact hrest hzero
    · next hreach =>
      rw [not_or, not_not] at hreach
      exact iff_of_true rfl ⟨fun htag => hreach.1 htag.symm, hreach.2⟩

theorem reach_le_length (tag : InteractiveTag) (elements : List EmptyElement) :
    reach tag elements ≤ elements.length := by
  induction elements with
  | nil => exact Nat.le_refl 0
  | cons e rest ih =>
    rw [reach, List.length_cons]
    split
    · exact Nat.succ_le_succ ih
    · exact Nat.zero_le _

/-- The place behind so many of the further lines of a page with the given ending. -/
def behindLines (before ending : List Char) (elements : List EmptyElement) (count : Nat) : Cursor :=
  ⟨(furtherLines (elements.take count)).reverse ++ before,
    furtherLines (elements.drop count) ++ ending⟩

theorem behindLines_zero (before ending : List Char) (elements : List EmptyElement) :
    behindLines before ending elements 0 = ⟨before, furtherLines elements ++ ending⟩ := rfl

theorem behindLines_cons (before ending : List Char) (e : EmptyElement)
    (rest : List EmptyElement) (count : Nat) :
    behindLines before ending (e :: rest) (count + 1)
      = behindLines (e.text.reverse ++ '\n' :: before) ending rest count := by
  simp [behindLines, furtherLines_cons]

/-- That place is so many line feeds further on. -/
theorem count_behindLines (before ending : List Char) {elements : List EmptyElement} {count : Nat}
    (hcount : count ≤ elements.length) :
    (behindLines before ending elements count).before.count '\n' = before.count '\n' + count := by
  rw [behindLines, List.count_append, List.count_reverse, count_furtherLines, List.length_take,
    Nat.min_eq_left hcount, Nat.add_comm]

/-- In front of a tag the match goes on behind it first, and ends there only if it can end
    nowhere further on. -/
theorem ends_remainder {tag : InteractiveTag} {c d : Cursor} (h : anyTag.ends c = [d])
    (hmoves : d.after.length < c.after.length) :
    (remainder tag).ends c = (remainder tag).ends d ++ (closingTag tag).ends c := by
  rw [remainder, ends, ends, ends_star_of_eq h hmoves, List.flatMap_append,
    List.flatMap_singleton]

section

variable {ending : List Char} (hending : Text.isBlankText ending = true)

include hending

/-- Behind an element the match can only end behind further ones with the tag, and it ends behind
    the last of them first. -/
theorem head?_ends_remainder (tag : InteractiveTag) (elements : List EmptyElement)
    (before : List Char) :
    ((remainder tag).ends ⟨before, furtherLines elements ++ ending⟩).head?
      = if reach tag elements = 0 then none
        else some (behindLines before ending elements (reach tag elements)) := by
  -- on the further elements; the ends are ordered from the last one back
  induction elements generalizing before with
  | nil =>
    show ((remainder tag).ends ⟨before, ending⟩).head? = none
    have htag : anyTag.ends ⟨before, ending⟩ = [] :=
      ends_blanks_seq_of_blank beginsWith_tag hending before
    have hclosing : (closingTag tag).ends ⟨before, ending⟩ = [] :=
      ends_blanks_seq_of_blank (beginsWith_closing tag) hending before
    rw [remainder, ends, ends_star_of_eq_nil htag, List.flatMap_singleton, hclosing]
    rfl
  | cons e rest ih =>
    -- over the opening tag and the closing tag of the element to the rest
    have hopening := e.ends_anyTag_opening before (furtherLines rest ++ ending)
    have hclosing := e.ends_anyTag_closing (e.opening.reverse ++ '\n' :: before)
      (furtherLines rest ++ ending)
    have hbefore : e.closing.reverse ++ (e.opening.reverse ++ '\n' :: before)
        = e.text.reverse ++ '\n' :: before := by
      simp [EmptyElement.text]
    have hmoves : (e.closing ++ (furtherLines rest ++ ending)).length
        < ('\n' :: (e.text ++ (furtherLines rest ++ ending))).length := by
      simp only [EmptyElement.text, List.length_cons, List.length_append]
      omega
    have hends : (remainder tag).ends ⟨before, furtherLines (e :: rest) ++ ending⟩
        = (remainder tag).ends ⟨e.text.reverse ++ '\n' :: before, furtherLines rest ++ ending⟩
          ++ if e.tag = tag then
              [behindLines (e.text.reverse ++ '\n' :: before) ending rest 0] else [] := by
      rw [furtherLines_cons, List.cons_append, List.append_assoc,
        ends_remainder hopening hmoves, ends_remainder hclosing (e.length_lt_closing_append _),
        e.ends_closingTag_opening, e.ends_closingTag_closing, List.append_nil, hbefore,
        behindLines_zero]
    rw [hends, List.head?_append, ih, reach]
    -- the match goes on if there is a later element with the tag, and else it may end here
    by_cases hrest : reach tag rest = 0
    · by_cases htag : e.tag = tag
      · simp [hrest, htag, behindLines_cons]
      · simp [hrest, htag]
    · simp [hrest, behindLines_cons]

/-- **One match.** An element is taken to end behind the last element with its tag. -/
theorem head?_ends_emptyElement (e : EmptyElement) (rest : List EmptyElement)
    (before : List Char) :
    ((emptyElement e.tag.name).ends ⟨before, e.text ++ (furtherLines rest ++ ending)⟩).head?
      = some (behindLines (e.text.reverse ++ before) ending rest (reach e.tag rest)) := by
  have hclosing := e.ends_anyTag_closing (e.opening.reverse ++ before)
    (furtherLines rest ++ ending)
  have hbefore : e.closing.reverse ++ (e.opening.reverse ++ before) = e.text.reverse ++ before := by
    simp [EmptyElement.text]
  rw [emptyElement_eq, e.ends_opening, ends_remainder hclosing (e.length_lt_closing_append _),
    e.ends_closingTag_closing, if_pos rfl, hbefore, List.head?_append,
    head?_ends_remainder hending]
  by_cases hreach : reach e.tag rest = 0
  · rw [if_pos hreach, hreach]
    rfl
  · rw [if_neg hreach]
    rfl

end

/-! ### The search -/

/-- The check for interactive elements without a text. -/
def labelCheck : Check := checks[3]

theorem beginsWith_labelCheck : labelCheck.pattern.BeginsWith (· == '<') := by
  have htag : ∀ name, (emptyElement name).BeginsWith (· == '<') :=
    fun name => ((BeginsWith.one _).seq _).seq _
  exact (htag "button").alt (htag "a")

/-- An element is no element of another tag. -/
theorem ends_emptyElement_of_ne {tag : InteractiveTag} {e : EmptyElement} (h : e.tag ≠ tag)
    (before rest : List Char) : (emptyElement tag.name).ends ⟨before, e.text ++ rest⟩ = [] := by
  rw [EmptyElement.text, EmptyElement.opening]
  cases htag : e.tag <;> cases tag
  · exact absurd htag h
  · rfl
  · rfl
  · exact absurd htag h

/-- The check looks for each of the tags, and the element has one of them. -/
theorem ends_labelCheck (e : EmptyElement) (before rest : List Char) :
    labelCheck.pattern.ends ⟨before, e.text ++ rest⟩
      = (emptyElement e.tag.name).ends ⟨before, e.text ++ rest⟩ := by
  show (emptyElement InteractiveTag.button.name).ends _
    ++ (emptyElement InteractiveTag.link.name).ends _ = _
  cases htag : e.tag with
  | button =>
    have hne : e.tag ≠ .link := by
      rw [htag]
      decide
    rw [ends_emptyElement_of_ne hne, List.append_nil]
  | link =>
    have hne : e.tag ≠ .button := by
      rw [htag]
      decide
    rw [ends_emptyElement_of_ne hne, List.nil_append]

/-- The lines in which elements are reported: the first of them, and on behind the last element with
    the same tag. -/
def reportedLines (line : Nat) : List EmptyElement → List Nat
  | [] => []
  | e :: rest =>
    line :: reportedLines (line + 1 + reach e.tag rest) (rest.drop (reach e.tag rest))
termination_by elements => elements.length
decreasing_by
  rw [List.length_drop, List.length_cons]
  omega

section

variable {ending : List Char} (hending : Text.isBlankText ending = true)

include hending

/-- **One step.** The search finds an element where it starts and goes on behind the last element
    with its tag. -/
theorem findAllFrom_element (e : EmptyElement) (rest : List EmptyElement) (fuel : Nat)
    (before : List Char) :
    labelCheck.pattern.findAllFrom (fuel + 1) ⟨before, e.text ++ (furtherLines rest ++ ending)⟩
      = ⟨⟨before, e.text ++ (furtherLines rest ++ ending)⟩,
          behindLines (e.text.reverse ++ before) ending rest (reach e.tag rest)⟩
        :: labelCheck.pattern.findAllFrom fuel
            (behindLines (e.text.reverse ++ before) ending rest (reach e.tag rest)) := by
  refine findAllFrom_of_some (findFrom_of_head? ?_) ?_ fuel
  · rw [ends_labelCheck, head?_ends_emptyElement hending]
  · -- what is left is a part of the further lines
    have hlines : furtherLines rest = furtherLines (rest.take (reach e.tag rest))
        ++ furtherLines (rest.drop (reach e.tag rest)) := by
      rw [furtherLines, furtherLines, furtherLines, ← List.flatMap_append, List.take_append_drop]
    have hpos : 0 < e.text.length := Nat.succ_pos _
    have hlength := congrArg List.length hlines
    rw [List.length_append] at hlength
    simp only [behindLines, List.length_append]
    omega

/-- **The run.** In the further lines of a page the search finds what is reported. -/
theorem lines_findAllFrom {elements : List EmptyElement} {line : Nat} {before : List Char}
    (hline : before.count '\n' + 2 = line) {fuel : Nat} (hfuel : elements.length < fuel) :
    (labelCheck.pattern.findAllFrom fuel ⟨before, furtherLines elements ++ ending⟩).map
      (fun m => m.start.line) = reportedLines line elements := by
  -- along the elements that the report skips: those up to the last one with the same tag
  induction line, elements using reportedLines.induct generalizing before fuel with
  | case1 line =>
    have hnone : ∀ c ∈ ending, (c == '<') = false :=
      fun c hc => beq_angle_of_isBlank (List.all_eq_true.mp hending c hc)
    rw [reportedLines, findAllFrom_of_none]
    · rfl
    · exact beginsWith_labelCheck.findFrom_eq_none hnone before
  | case2 line e rest ih =>
    cases fuel with
    | zero => cases hfuel
    | succ fuel =>
      -- the line end before the element is passed over
      have hskipped : ∀ c ∈ ['\n'], (c == '<') = false := by simp
      have hskip := beginsWith_labelCheck.findAllFrom_append hskipped (fuel + 1) before
        (e.text ++ (furtherLines rest ++ ending))
      have hlines : furtherLines (e :: rest) ++ ending
          = ['\n'] ++ (e.text ++ (furtherLines rest ++ ending)) := by
        rw [furtherLines_cons, List.cons_append, List.append_assoc]
        rfl
      rw [hlines, hskip, findAllFrom_element hending, List.map_cons, reportedLines,
        List.reverse_singleton, List.singleton_append]
      refine congrArg₂ List.cons ?_ ?_
      · show ('\n' :: before).count '\n' + 1 = line
        rw [List.count_cons_self]
        omega
      · -- the step has passed over one line and those up to the last element with the tag
        have hcount := count_behindLines (e.text.reverse ++ '\n' :: before) ending
          (reach_le_length e.tag rest)
        rw [List.count_append, List.count_reverse, e.count_text, List.count_cons_self] at hcount
        refine ih ?_ ?_
        · show (behindLines (e.text.reverse ++ '\n' :: before) ending rest _).before.count '\n' + 2
            = _
          omega
        · rw [List.length_drop]
          rw [List.length_cons] at hfuel
          omega

/-- A page is searched from its first element on. -/
theorem lines_findAll (elements : List EmptyElement) :
    (labelCheck.pattern.findAll (page elements ++ ending)).map (fun m => m.start.line)
      = reportedLines 1 elements := by
  cases elements with
  | nil =>
    have hrun : (labelCheck.pattern.findAllFrom (ending.length + 1)
        ⟨[], furtherLines [] ++ ending⟩).map (fun m => m.start.line) = reportedLines 2 [] :=
      lines_findAllFrom hending rfl (Nat.succ_pos _)
    rw [reportedLines] at hrun ⊢
    exact hrun
  | cons e rest =>
    have hpage : page (e :: rest) ++ ending = e.text ++ (furtherLines rest ++ ending) := by
      rw [page_cons, List.append_assoc]
    -- there are at least as many characters as elements, so the steps suffice
    have hfuel : (rest.drop (reach e.tag rest)).length < (page (e :: rest) ++ ending).length := by
      have hlines : rest.length ≤ (furtherLines rest).length := by
        rw [← count_furtherLines rest]
        exact List.count_le_length
      have hpos : 0 < e.text.length := Nat.succ_pos _
      rw [hpage, List.length_drop, List.length_append, List.length_append]
      omega
    -- the line in which the search goes on
    have hcount : (behindLines e.text.reverse ending rest (reach e.tag rest)).before.count '\n' + 2
        = 1 + 1 + reach e.tag rest := by
      rw [count_behindLines _ _ (reach_le_length e.tag rest), List.count_reverse, e.count_text]
      omega
    rw [findAll, Cursor.start]
    generalize (page (e :: rest) ++ ending).length = fuel at hfuel ⊢
    have hrun : (labelCheck.pattern.findAllFrom fuel
        (behindLines e.text.reverse ending rest (reach e.tag rest))).map (fun m => m.start.line)
          = reportedLines (1 + 1 + reach e.tag rest) (rest.drop (reach e.tag rest)) :=
      lines_findAllFrom hending hcount hfuel
    -- one match for the first element, then those behind the place that it reaches to
    rw [hpage, findAllFrom_element hending, List.map_cons, reportedLines, List.append_nil]
    exact congrArg (1 :: ·) hrun

end

/-! ### What is reported -/

/-- Whether a finding is one of the check with an identifier. -/
def isOfCheck (id : String) (f : RawFinding) : Bool :=
  match f.metadata.find? fun field => field.1 == "patternId" with
  | some (_, .str text) => text == id
  | _ => false

/-- The lines of the findings of a check in the text of a page. -/
def linesOfCheck (id : String) (path : String) (text : List Char) : List Json :=
  ((contentFindings path text).filter (isOfCheck id)).map RawFinding.line

/-- The findings of a check are told from all others. -/
theorem filter_contentFindings {check : Check} (hcheck : check ∈ checks) (path : String)
    (text : List Char) :
    (contentFindings path text).filter (isOfCheck check.id) = checkFindings path text check := by
  have hother : ∀ other : Check, (checkFindings path text other).filter (isOfCheck check.id)
      = if other.id = check.id then checkFindings path text other else [] := by
    intro other
    have hmatch : ∀ m, (isOfCheck check.id ∘ checkFinding path other) m = (other.id == check.id) :=
      fun _ => rfl
    rw [checkFindings, List.filter_map, List.filter_congr fun m _ => hmatch m]
    by_cases hid : other.id = check.id <;> simp [hid]
  have hskips : ((headingSkips text).map (skipFinding path)).filter (isOfCheck check.id) = [] := by
    have hne : ∀ other ∈ checks, headingCheck ≠ other.id := by decide
    rw [List.filter_eq_nil_iff]
    intro f hf
    obtain ⟨skip, -, rfl⟩ := List.mem_map.mp hf
    exact fun hid => hne check hcheck (beq_iff_eq.mp hid)
  rw [contentFindings, List.filter_append, hskips, List.append_nil, List.filter_flatMap]
  simp only [hother]
  -- no other check has the identifier
  simp only [checks, List.mem_cons, List.not_mem_nil, or_false] at hcheck
  rcases hcheck with rfl | rfl | rfl | rfl | rfl | rfl | rfl
  all_goals simp [checks]

/-- No more lines are reported than there are. -/
theorem length_reportedLines_le (line : Nat) (elements : List EmptyElement) :
    (reportedLines line elements).length ≤ elements.length := by
  induction line, elements using reportedLines.induct with
  | case1 line => simp [reportedLines]
  | case2 line e rest ih =>
    rw [reportedLines, List.length_cons, List.length_cons]
    rw [List.length_drop] at ih
    omega

/-- All lines are reported exactly if no two elements have the same tag. -/
theorem reportedLines_eq_range'_iff (line : Nat) (elements : List EmptyElement) :
    reportedLines line elements = List.range' line elements.length
      ↔ (elements.map EmptyElement.tag).Nodup := by
  induction line, elements using reportedLines.induct with
  | case1 line => simp [reportedLines]
  | case2 line e rest ih =>
    rw [reportedLines, List.length_cons, List.range'_succ, List.cons.injEq, List.map_cons,
      List.nodup_cons, ← reach_eq_zero_iff]
    by_cases hreach : reach e.tag rest = 0
    · rw [hreach, List.drop_zero, Nat.add_zero] at ih ⊢
      rw [ih]
      simp
    · -- the lines up to the last element with the tag are not reported
      refine iff_of_false (fun h => ?_) fun h => hreach h.1
      have hlength := congrArg List.length h.2
      have hle := length_reportedLines_le (line + 1 + reach e.tag rest)
        (rest.drop (reach e.tag rest))
      have hreach' := reach_le_length e.tag rest
      rw [List.length_drop] at hle
      rw [List.length_range'] at hlength
      omega

/-- **Empty elements.** In a page with an empty element in each line, and with blanks at its end,
    the first element is reported, and then on behind the last element with the same tag.  So all of
    them are reported, and in their lines, exactly if no two have the same tag. -/
theorem emptyElements_reported_iff (path : String) (elements : List EmptyElement)
    {ending : List Char} (hending : Text.isBlankText ending = true) :
    linesOfCheck "missing_aria_label" path (page elements ++ ending)
        = (reportedLines 1 elements).map (fun line : Nat => Json.int line)
      ∧ (linesOfCheck "missing_aria_label" path (page elements ++ ending)
          = (List.range' 1 elements.length).map (fun line : Nat => Json.int line)
        ↔ (elements.map EmptyElement.tag).Nodup) := by
  have hlines : linesOfCheck "missing_aria_label" path (page elements ++ ending)
      = (reportedLines 1 elements).map (fun line : Nat => Json.int line) := by
    have hcheck : labelCheck ∈ checks := List.getElem_mem _
    have hfindings : (contentFindings path (page elements ++ ending)).filter
          (isOfCheck "missing_aria_label")
        = checkFindings path (page elements ++ ending) labelCheck :=
      filter_contentFindings hcheck path _
    rw [linesOfCheck, hfindings, checkFindings, ← lines_findAll hending, List.map_map, List.map_map]
    rfl
  have hinjective : Function.Injective fun line : Nat => Json.int line :=
    fun one other h => Int.ofNat_inj.mp (Json.int.inj h)
  refine ⟨hlines, ?_⟩
  rw [hlines, (List.map_injective_iff.mpr hinjective).eq_iff, reportedLines_eq_range'_iff]

/-! ### Two elements -/

namespace Sample

/-- A button. -/
def button : EmptyElement := ⟨.button, [], by simp, by simp⟩

/-- A link with an attribute. -/
def link : EmptyElement where
  tag := .link
  attributes := [' ', 'h', 'i', 'd', 'd', 'e', 'n']
  inside := by simp
  apart := by simp [Text.isBlank]

/-- A button and a link are both reported. -/
theorem button_and_link_reported :
    Text.isBlankText ['\n'] = true
      ∧ linesOfCheck "missing_aria_label" "index.html" (page [button, link] ++ ['\n'])
        = [.int 1, .int 2] :=
  ⟨rfl, (emptyElements_reported_iff "index.html" [button, link] rfl).2.mpr (by decide)⟩

/-- Of two buttons the second is not. -/
theorem not_both_buttons_reported :
    page [button, button] = "<button></button>\n<button></button>".toList
      ∧ linesOfCheck "missing_aria_label" "index.html" (page [button, button])
        ≠ [.int 1, .int 2] := by
  refine ⟨by decide, fun h => ?_⟩
  have hlength : (linesOfCheck "missing_aria_label" "index.html"
      (page [button, button])).length = 1 := by decide +kernel
  rw [h] at hlength
  cases hlength

end Sample

end PlainScan.Accessibility

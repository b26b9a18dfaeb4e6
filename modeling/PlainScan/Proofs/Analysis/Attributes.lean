import PlainScan.Proofs.Analysis.EmptyElements
import PlainScan.Proofs.Pattern.Language

namespace PlainScan.Accessibility

/-!
# Attributes

The checks for an attribute do not read the attributes of a tag: they look for the name of the
attribute anywhere in the rest of the tag, at the edge of a word and with an equals sign after it.
So an attribute counts whose name only ends in the one looked for, behind a hyphen, and so does one
with such a text in its value.  The check for elements without a text looks for no attribute at all.

* `Attribute`, `Attributes` — an attribute of a tag, and all of them.
* `AttributeCheck` — the checks for an attribute, with the tags that they look at.
* `Mentions` — what the checks look for; `Attribute.Shows` — where it stands in an attribute.
* `mentions_text_iff` — what a tag mentions, its attributes show.
* `attributes_reported_iff` — what is reported, and when the names of the attributes decide it.
-/

open Pattern

/-! ### Tags with attributes -/

/-- An attribute with the blanks before it.  Its name consists of ASCII letters, digits and hyphens
    and begins with a letter; its value stands in quotation marks and has no angles in it. -/
structure Attribute where
  gap : List Char
  name : List Char
  value : List Char
  gap_ne_nil : gap ≠ []
  isBlank_gap : Text.isBlankText gap = true
  isAlpha_head : ∃ c ∈ name.head?, c.isAlpha = true
  isNameChar_name : ∀ c ∈ name, isNameChar c = true
  value_inside : ∀ c ∈ value, c ≠ '"' ∧ c ≠ '<' ∧ c ≠ '>'

/-- The attribute as it is written. -/
def Attribute.text (a : Attribute) : List Char :=
  a.gap ++ (a.name ++ '=' :: '"' :: (a.value ++ ['"']))

/-- The attributes of a tag with the blanks behind the last one. -/
structure Attributes where
  items : List Attribute
  ending : List Char
  isBlank_ending : Text.isBlankText ending = true

/-- The attributes as they are written. -/
def Attributes.text (a : Attributes) : List Char := a.items.flatMap Attribute.text ++ a.ending

/-- The checks for an attribute. -/
inductive AttributeCheck where
  | image
  | link
  | input
  deriving DecidableEq, Repr

namespace AttributeCheck

/-- The name under which the check reports. -/
def id : AttributeCheck → String
  | image => "missing_alt"
  | link => "link_without_href"
  | input => "input_without_label"

/-- The tag that the check looks at. -/
def tag : AttributeCheck → String
  | image => "img"
  | link => "a"
  | input => "input"

/-- The attributes of which the tag must have one. -/
def wanted : AttributeCheck → List String
  | image => ["alt"]
  | link => ["href"]
  | input => ["id", "aria-label", "aria-labelledby"]

/-- The tag with attributes. -/
def text (check : AttributeCheck) (a : Attributes) : List Char :=
  '<' :: (check.tag.toList ++ (a.text ++ ['>']))

end AttributeCheck

/-- A button with attributes and without a text. -/
def buttonText (a : Attributes) : List Char :=
  '<' :: ("button".toList ++ (a.text ++ '>' :: "</button>".toList))

/-- The check with an identifier reports something in the text of a page. -/
def Reports (id : String) (path : String) (text : List Char) : Prop :=
  ∃ f ∈ contentFindings path text, isOfCheck id f = true

/-! ### Names -/

/-- An attribute has a name, which is given in lower case. -/
def Attribute.Named (a : Attribute) (name : String) : Prop := a.name.map Char.toLower = name.toList

/-- The name of an attribute ends in another one, behind a hyphen. -/
def Attribute.EndsIn (a : Attribute) (name : String) : Prop :=
  ∃ front back, a.name = front ++ '-' :: back ∧ back.map Char.toLower = name.toList

/-- A name stands in a text, in any case and where no word is under way, and an equals sign follows,
    perhaps behind blanks. -/
def Mentions (name : String) (text : List Char) : Prop :=
  ∃ front w gap rest, text = front ++ ((w ++ gap ++ ['=']) ++ rest) ∧ w ∈ wordAnyCase name ∧
    Text.isBlankText gap = true ∧ ∀ c ∈ front.getLast?, Text.isWord c = false

/-- An attribute that counts as one with a name. -/
def Attribute.Shows (a : Attribute) (name : String) : Prop :=
  a.Named name ∨ a.EndsIn name ∨ Mentions name a.value

/-- The name of an attribute in lower case: letters and hyphens, and a letter first. -/
def IsAttributeName (name : String) : Prop :=
  (name.toList.all fun c => c.isLower || c == '-') = true ∧
    name.toList.head?.any Char.isLower = true

theorem AttributeCheck.isAttributeName_of_mem {check : AttributeCheck} {name : String}
    (h : name ∈ check.wanted) : IsAttributeName name := by
  cases check with
  | image =>
    obtain rfl : name = "alt" := by simpa [wanted] using h
    exact ⟨by decide, by decide⟩
  | link =>
    obtain rfl : name = "href" := by simpa [wanted] using h
    exact ⟨by decide, by decide⟩
  | input =>
    obtain rfl | rfl | rfl : name = "id" ∨ name = "aria-label" ∨ name = "aria-labelledby" := by
      simpa [wanted] using h
    all_goals exact ⟨by decide, by decide⟩

/-- What is taken for a name consists of characters of words and hyphens. -/
theorem isWord_or_hyphen_of_mem {name : String} (hname : IsAttributeName name) {w : List Char}
    (hw : w ∈ wordAnyCase name) : ∀ c ∈ w, Text.isWord c = true ∨ c = '-' := by
  intro c hc
  obtain ⟨x, hx, hsame⟩ : ∃ x ∈ name.toList, sameLetter x c = true := by
    obtain ⟨i, hi, rfl⟩ := List.mem_iff_getElem.mp hc
    have hlength := List.Forall₂.length_eq hw
    exact ⟨name.toList[i], List.getElem_mem _, List.Forall₂.get hw (by omega) hi⟩
  have hchar := List.all_eq_true.mp hname.1 x hx
  rw [Bool.or_eq_true, beq_iff_eq] at hchar
  rcases hchar with hlower | rfl
  · exact .inl (isWord_of_sameLetter hsame (isWord_of_isLower hlower))
  · exact .inr (sameLetter_hyphen_iff.mp hsame)

/-- It begins with a character of a word. -/
theorem exists_cons_of_mem {name : String} (hname : IsAttributeName name) {w : List Char}
    (hw : w ∈ wordAnyCase name) : ∃ c rest, w = c :: rest ∧ Text.isWord c = true := by
  obtain ⟨-, hhead⟩ := hname
  obtain ⟨x, more, hmore, hlower⟩ : ∃ x more, name.toList = x :: more ∧ x.isLower = true := by
    cases hlist : name.toList with
    | nil =>
      rw [hlist] at hhead
      cases hhead
    | cons x more =>
      rw [hlist] at hhead
      exact ⟨x, more, rfl, hhead⟩
  have hforall : List.Forall₂ (fun x c => sameLetter x c = true) name.toList w := hw
  rw [hmore, List.forall₂_cons_left_iff] at hforall
  obtain ⟨c, rest, hsame, -, rfl⟩ := hforall
  exact ⟨c, rest, rfl, isWord_of_sameLetter hsame (isWord_of_isLower hlower)⟩

/-- No quotation mark and no equals sign is in it, and no blank. -/
theorem isBlank_eq_false_of_word_or_hyphen {c : Char} (h : Text.isWord c = true ∨ c = '-') :
    c ≠ '"' ∧ c ≠ '=' ∧ Text.isBlank c = false := by
  rcases h with h | rfl
  · refine ⟨?_, ?_, ?_⟩
    · rintro rfl
      cases h
    · rintro rfl
      cases h
    · by_contra hblank
      rw [Text.isWord_eq_false_of_isBlank (by simpa using hblank)] at h
      cases h
  · decide

/-- A character of a name belongs to a word or is a hyphen. -/
theorem isWord_or_hyphen_of_isNameChar {c : Char} (h : isNameChar c = true) :
    Text.isWord c = true ∨ c = '-' := by
  rw [isNameChar, Bool.or_eq_true, beq_iff_eq] at h
  exact h.imp_left isWord_of_isAlphanum

namespace Attribute

theorem name_ne_nil (a : Attribute) : a.name ≠ [] := by
  obtain ⟨c, hc, -⟩ := a.isAlpha_head
  rintro hnil
  simp [hnil] at hc

theorem isBlank_eq_false_of_mem (a : Attribute) {c : Char} (hc : c ∈ a.name) :
    Text.isBlank c = false :=
  (isBlank_eq_false_of_word_or_hyphen
    (isWord_or_hyphen_of_isNameChar (a.isNameChar_name c hc))).2.2

/-- No equals sign stands before that of the attribute. -/
theorem equals_not_mem (a : Attribute) : '=' ∉ a.gap ++ a.name := by
  intro hmem
  rcases List.mem_append.mp hmem with hmem | hmem
  · exact absurd (List.all_eq_true.mp a.isBlank_gap _ hmem) (by decide)
  · have hchar := isWord_or_hyphen_of_isNameChar (a.isNameChar_name _ hmem)
    exact (isBlank_eq_false_of_word_or_hyphen hchar).2.1 rfl

/-- What ends a name is taken for another one if that is its end in lower case. -/
theorem mem_wordAnyCase_iff (a : Attribute) {name : String} {front back : List Char}
    (hends : a.name = front ++ back) :
    back ∈ wordAnyCase name ↔ back.map Char.toLower = name.toList := by
  refine forall₂_sameLetter_iff fun c hc => a.isNameChar_name c ?_
  rw [hends]
  exact List.mem_append_right _ hc

/-- Nothing in an attribute ends the tag or begins another one. -/
theorem inside (a : Attribute) {c : Char} (hc : c ∈ a.text) : c ≠ '<' ∧ c ≠ '>' := by
  have hword : ∀ d, Text.isWord d = true ∨ d = '-' → d ≠ '<' ∧ d ≠ '>' := by
    rintro d (hd | rfl)
    · refine ⟨?_, ?_⟩ <;> rintro rfl <;> cases hd
    · decide
  simp only [text, List.mem_append, List.mem_cons, List.not_mem_nil, or_false] at hc
  rcases hc with hc | hc | rfl | rfl | hc | rfl
  · have hblank := List.all_eq_true.mp a.isBlank_gap c hc
    refine ⟨?_, ?_⟩ <;> rintro rfl <;> cases hblank
  · exact hword c (isWord_or_hyphen_of_isNameChar (a.isNameChar_name c hc))
  · decide
  · decide
  · exact (a.value_inside c hc).2
  · decide

end Attribute

namespace Attributes

/-- Nor does anything in all of them. -/
theorem inside (a : Attributes) {c : Char} (hc : c ∈ a.text) : c ≠ '<' ∧ c ≠ '>' := by
  rcases List.mem_append.mp hc with hc | hc
  · obtain ⟨item, -, hc⟩ := List.mem_flatMap.mp hc
    exact item.inside hc
  · have hblank := List.all_eq_true.mp a.isBlank_ending c hc
    refine ⟨?_, ?_⟩ <;> rintro rfl <;> cases hblank

/-- What follows the name of a tag belongs to no word. -/
theorem isWordAt_head?_text (a : Attributes) (rest : List Char) :
    Text.isWordAt (a.text ++ '>' :: rest).head? = false := by
  obtain ⟨items, ending, hending⟩ := a
  have hblank : ∀ {c : Char} {w more : List Char}, Text.isBlankText w = true → w = c :: more →
      Text.isWord c = false := by
    rintro c _ more hw rfl
    exact Text.isWord_eq_false_of_isBlank (List.all_eq_true.mp hw c List.mem_cons_self)
  cases items with
  | nil =>
    show Text.isWordAt (ending ++ '>' :: rest).head? = false
    cases hcases : ending with
    | nil => rfl
    | cons c more => exact hblank hending hcases
  | cons item items =>
    obtain ⟨c, more, hgap⟩ := List.exists_cons_of_ne_nil item.gap_ne_nil
    have hhead : (text ⟨item :: items, ending, hending⟩ ++ '>' :: rest).head? = some c := by
      simp [text, Attribute.text, hgap]
    rw [hhead]
    exact hblank item.isBlank_gap hgap

end Attributes

/-! ### What attributes mention -/

/-- A text without quotation marks stands on one side of a quotation mark. -/
theorem append_block_eq {front block rest u v : List Char} (hblock : '"' ∉ block)
    (h : front ++ (block ++ rest) = u ++ '"' :: v) :
    (∃ more, u = front ++ (block ++ more)) ∨ ∃ more, front = u ++ '"' :: more ∧
      v = more ++ (block ++ rest) := by
  rcases List.append_eq_append_iff.mp h with ⟨part, rfl, hpart⟩ | ⟨part, rfl, hpart⟩
  · refine .inl ?_
    rcases List.append_eq_append_iff.mp hpart with ⟨more, rfl, -⟩ | ⟨more, rfl, hmore⟩
    · exact ⟨more, rfl⟩
    · -- the quotation mark does not begin in the text
      cases more with
      | nil => exact ⟨[], by simp⟩
      | cons c more =>
        obtain ⟨rfl, -⟩ := List.cons.inj hmore
        simp at hblock
  · cases part with
    | nil =>
      cases block with
      | nil => exact .inl ⟨[], by simp⟩
      | cons c block =>
        obtain ⟨rfl, -⟩ := List.cons.inj hpart
        simp at hblock
    | cons c more =>
      obtain ⟨rfl, rfl⟩ := List.cons.inj hpart
      exact .inr ⟨more, rfl, rfl⟩

/-- A part that ends with some character ends the text, or stands before its last character. -/
theorem eq_or_exists_of_concat_eq {u front block rest : List Char} {c d : Char}
    (h : u ++ [d] = front ++ ((block ++ [c]) ++ rest)) :
    (u = front ++ block ∧ d = c) ∨ ∃ more, u = front ++ ((block ++ [c]) ++ more) := by
  rcases List.eq_nil_or_concat' rest with rfl | ⟨more, e, rfl⟩
  · have hends : u ++ [d] = front ++ block ++ [c] := by simpa using h
    obtain ⟨hu, hd⟩ := List.append_inj' hends rfl
    exact .inl ⟨hu, List.singleton_inj.mp hd⟩
  · have hends : u ++ [d] = front ++ ((block ++ [c]) ++ more) ++ [e] := by simpa using h
    exact .inr ⟨more, (List.append_inj' hends rfl).1⟩

/-- Without an equals sign nothing is mentioned. -/
theorem not_mentions_of_not_mem {name : String} {text : List Char} (h : '=' ∉ text) :
    ¬ Mentions name text := by
  rintro ⟨front, w, gap, rest, rfl, -⟩
  simp at h

section

variable {name : String} (hname : IsAttributeName name)

include hname

/-- What is looked for has no quotation marks in it. -/
theorem quote_not_mem {w gap : List Char} (hw : w ∈ wordAnyCase name)
    (hgap : Text.isBlankText gap = true) : '"' ∉ w ++ gap ++ ['='] := by
  rw [Text.isBlankText, List.all_eq_true] at hgap
  intro hmem
  rw [List.mem_append, List.mem_append, List.mem_singleton] at hmem
  rcases hmem with (hmem | hmem) | hmem
  · exact (isBlank_eq_false_of_word_or_hyphen (isWord_or_hyphen_of_mem hname hw _ hmem)).1 rfl
  · exact absurd (hgap _ hmem) (by decide)
  · exact absurd hmem (by decide)

/-- What stands on either side of a quotation mark is looked at on its own. -/
theorem mentions_append_quote (u v : List Char) :
    Mentions name (u ++ '"' :: v) ↔ Mentions name u ∨ Mentions name v := by
  constructor
  · rintro ⟨front, w, gap, rest, htext, hw, hgap, hfront⟩
    -- the mark stands in no name, so a mention lies on one side of it
    rcases append_block_eq (quote_not_mem hname hw hgap) htext.symm with
      ⟨more, hu⟩ | ⟨more, rfl, hv⟩
    · exact .inl ⟨front, w, gap, more, hu, hw, hgap, hfront⟩
    · refine .inr ⟨more, w, gap, rest, hv, hw, hgap, fun c hc => hfront c ?_⟩
      rw [Option.mem_def] at hc
      simp [List.getLast?_cons, hc]
  · rintro (⟨front, w, gap, rest, rfl, hw, hgap, hfront⟩ |
      ⟨front, w, gap, rest, rfl, hw, hgap, hfront⟩)
    · exact ⟨front, w, gap, rest ++ '"' :: v, by simp, hw, hgap, hfront⟩
    · refine ⟨u ++ '"' :: front, w, gap, rest, by simp, hw, hgap, fun c hc => ?_⟩
      cases hlast : front.getLast? with
      | none =>
        obtain rfl : '"' = c := by simpa [List.getLast?_cons, hlast] using hc
        rfl
      | some d =>
        obtain rfl : d = c := by simpa [List.getLast?_cons, hlast] using hc
        exact hfront d hlast

/-- What is looked for in front of the equals sign of an attribute has no blanks around it, so it
    ends the name. -/
theorem Attribute.exists_name_eq (a : Attribute) {front w gap rest : List Char}
    (htext : a.gap ++ a.name ++ ['='] = front ++ ((w ++ gap ++ ['=']) ++ rest))
    (hw : w ∈ wordAnyCase name) (hgap : Text.isBlankText gap = true) :
    ∃ part, front = a.gap ++ part ∧ a.name = part ++ w := by
  -- the only equals sign is the last character
  have hinit : a.gap ++ a.name = front ++ (w ++ gap) := by
    rcases eq_or_exists_of_concat_eq htext with ⟨hinit, -⟩ | ⟨more, hmore⟩
    · exact hinit
    · refine absurd ?_ a.equals_not_mem
      rw [hmore]
      simp
  -- no blank follows the name
  obtain ⟨init, last, hlast⟩ := (List.eq_nil_or_concat' a.name).resolve_left a.name_ne_nil
  obtain rfl : gap = [] := by
    rcases List.eq_nil_or_concat' gap with rfl | ⟨gap, c, rfl⟩
    · rfl
    · have hends : a.gap ++ init ++ [last] = front ++ (w ++ gap) ++ [c] := by
        rw [List.append_assoc, ← hlast, hinit]
        simp
      obtain rfl : last = c := by simpa using (List.append_inj' hends rfl).2
      have hnotBlank := a.isBlank_eq_false_of_mem (c := last) (by simp [hlast])
      simp [Text.isBlankText, hnotBlank] at hgap
  rw [List.append_nil] at hinit
  rcases List.append_eq_append_iff.mp hinit with ⟨part, hfront, hpart⟩ | ⟨part, hpart, rfl⟩
  · exact ⟨part, hfront, hpart⟩
  · -- what is looked for does not begin with a blank
    cases part with
    | nil => exact ⟨[], by simp [hpart], rfl⟩
    | cons c part =>
      have hblank := List.all_eq_true.mp a.isBlank_gap c (by simp [hpart])
      have hword := isWord_or_hyphen_of_mem hname hw c (by simp)
      rw [(isBlank_eq_false_of_word_or_hyphen hword).2.2] at hblank
      cases hblank

/-- What an attribute is called is mentioned, and so is its end behind a hyphen. -/
theorem Attribute.mentions_name_iff (a : Attribute) :
    Mentions name (a.gap ++ a.name ++ ['=']) ↔ a.Named name ∨ a.EndsIn name := by
  constructor
  · rintro ⟨front, w, gap, rest, htext, hw, hgap, hfront⟩
    obtain ⟨part, rfl, hpart⟩ := a.exists_name_eq hname htext hw hgap
    rw [a.mem_wordAnyCase_iff hpart] at hw
    rcases List.eq_nil_or_concat' part with rfl | ⟨part, c, rfl⟩
    · rw [List.nil_append] at hpart
      rw [← hpart] at hw
      exact .inl hw
    · -- what comes before the end of a name and belongs to no word is a hyphen
      have hnotWord : Text.isWord c = false := hfront c (by simp)
      have hchar := a.isNameChar_name c (by simp [hpart])
      obtain rfl : c = '-' :=
        (isWord_or_hyphen_of_isNameChar hchar).resolve_left (by simp [hnotWord])
      exact .inr ⟨part, w, by simp [hpart], hw⟩
  · rintro (hnamed | ⟨front, back, hends, hback⟩)
    · refine ⟨a.gap, a.name, [], [], by simp, ?_, rfl, ?_⟩
      · exact (a.mem_wordAnyCase_iff (List.nil_append _).symm).mpr hnamed
      · intro c hc
        exact Text.isWord_eq_false_of_isBlank
          (List.all_eq_true.mp a.isBlank_gap c (List.mem_of_mem_getLast? hc))
    · have hends' : a.name = (front ++ ['-']) ++ back := by simp [hends]
      have hword := (a.mem_wordAnyCase_iff hends').mpr hback
      refine ⟨a.gap ++ front ++ ['-'], back, [], [], by simp [hends], hword, rfl, fun c hc => ?_⟩
      obtain rfl : '-' = c := by simpa using hc
      rfl

/-- What an attribute mentions, it shows. -/
theorem Attribute.mentions_text_append_iff (a : Attribute) (rest : List Char) :
    Mentions name (a.text ++ rest) ↔ a.Shows name ∨ Mentions name rest := by
  have htext : a.text ++ rest
      = (a.gap ++ a.name ++ ['=']) ++ '"' :: (a.value ++ '"' :: rest) := by
    simp [text]
  rw [htext, mentions_append_quote hname, mentions_append_quote hname, a.mentions_name_iff hname,
    Shows, or_assoc, or_assoc, or_assoc]

/-- **Attributes.** What is mentioned in the attributes of a tag, one of them shows. -/
theorem Attributes.mentions_text_iff (a : Attributes) :
    Mentions name a.text ↔ ∃ item ∈ a.items, item.Shows name := by
  have hending : '=' ∉ a.ending := fun hmem =>
    absurd (List.all_eq_true.mp a.isBlank_ending _ hmem) (by decide)
  rw [text]
  generalize a.items = items
  induction items with
  | nil => simpa using not_mentions_of_not_mem hending
  | cons item rest ih =>
    rw [List.flatMap_cons, List.append_assoc, item.mentions_text_append_iff hname]
    refine (or_congr Iff.rfl ih).trans ?_
    simp

end

/-! ### Matching -/

/-- What is looked for behind the edge of a word. -/
def attributeBehind (wanted : List String) : Pattern :=
  all [any (wanted.map literalAnyCase), blanks, literal "="]

theorem attributeNamed_eq (wanted : List String) :
    attributeNamed (any (wanted.map literalAnyCase))
      = seq insideTag (seq wordEdge (attributeBehind wanted)) := rfl

theorem AttributeCheck.isRegular_attributeBehind (check : AttributeCheck) :
    (attributeBehind check.wanted).isRegular = true := by
  cases check <;> rfl

/-- One of the names, blanks and an equals sign. -/
theorem mem_language_attributeBehind_iff {wanted : List String} {text : List Char} :
    text ∈ (attributeBehind wanted).language ↔ ∃ name ∈ wanted, ∃ w gap,
      w ∈ wordAnyCase name ∧ Text.isBlankText gap = true ∧ text = w ++ gap ++ ['='] := by
  -- the three parts one by one
  have hnames : ∀ w : List Char, w ∈ (any (wanted.map literalAnyCase)).language ↔
      ∃ name ∈ wanted, w ∈ wordAnyCase name := by
    intro w
    rw [language_any, List.map_map]
    induction wanted with
    | nil => simp
    | cons name rest ih =>
      rw [List.map_cons, List.sum_cons, Language.mem_add, ih, Function.comp_apply,
        language_literalAnyCase]
      simp
  have hblanks : ∀ gap : List Char, gap ∈ blanks.language ↔ Text.isBlankText gap = true := by
    intro gap
    rw [blanks, mem_language_run_iff, Text.isBlankText, List.all_eq_true]
    exact and_iff_right (Nat.zero_le _)
  have hequals : ∀ sign : List Char, sign ∈ (literal "=").language ↔ sign = ['='] := by
    intro sign
    rw [language_literal]
    rfl
  rw [attributeBehind, language_all]
  simp only [List.map_cons, List.map_nil, List.prod_cons, List.prod_nil, mul_one,
    Language.mem_mul, hnames, hblanks, hequals]
  constructor
  · rintro ⟨w, ⟨name, hname, hw⟩, _, ⟨gap, hgap, _, rfl, rfl⟩, rfl⟩
    exact ⟨name, hname, w, gap, hw, hgap, by simp⟩
  · rintro ⟨name, hname, w, gap, hw, hgap, rfl⟩
    exact ⟨w, ⟨name, hname, hw⟩, _, ⟨gap, hgap, _, rfl, rfl⟩, by simp⟩

/-- Where a character of a word comes next is an edge exactly if none came before. -/
theorem isWordEdge_cons_iff {before rest : List Char} {c : Char} (hc : Text.isWord c = true) :
    (Cursor.mk before (c :: rest)).isWordEdge = true ↔ Text.isWordAt before.head? = false := by
  have hnext : Text.isWordAt (some c) = true := hc
  rw [Cursor.isWordEdge, Text.atWordEdge, List.head?_cons, hnext]
  simp

/-- The pattern for an attribute matches where, further on in the tag, one of the names begins at
    the edge of a word, and blanks and an equals sign follow. -/
theorem AttributeCheck.ends_attributeNamed_ne_nil (check : AttributeCheck)
    {before after : List Char} :
    (attributeNamed (any (check.wanted.map literalAnyCase))).ends ⟨before, after⟩ ≠ [] ↔
      ∃ front text rest, after = front ++ (text ++ rest) ∧ (∀ c ∈ front, c ≠ '>') ∧
        (Cursor.mk (front.reverse ++ before) (text ++ rest)).isWordEdge = true ∧
        text ∈ (attributeBehind check.wanted).language := by
  rw [attributeNamed_eq]
  constructor
  · intro hne
    -- the three parts of the pattern: up to the edge, the edge, and the attribute behind it
    obtain ⟨d, hd⟩ := List.exists_mem_of_ne_nil _ hne
    obtain ⟨c, hinside, hc⟩ := (mem_ends_seq _ _ _ _).mp hd
    obtain ⟨c', hedge, hbehind⟩ := (mem_ends_seq _ _ _ _).mp hc
    obtain ⟨hedge, rfl⟩ := mem_ends_wordEdge.mp hedge
    obtain ⟨front, hfront, hafter, hbefore⟩ := (mem_ends_iff rfl).mp hinside
    obtain ⟨text, htext, hrest, -⟩ := (mem_ends_iff check.isRegular_attributeBehind).mp hbehind
    refine ⟨front, text, d.after, ?_, ?_, ?_, htext⟩
    · rw [← hrest]
      exact hafter
    · intro x hx
      simpa using (mem_language_run_iff.mp hfront).2 x hx
    · rw [← hrest, ← show c'.before = front.reverse ++ before from hbefore]
      exact hedge
  · rintro ⟨front, text, rest, rfl, hfront, hedge, htext⟩
    -- each part leads to where the next one starts
    have hinside : (⟨front.reverse ++ before, text ++ rest⟩ : Cursor)
        ∈ insideTag.ends ⟨before, front ++ (text ++ rest)⟩ := by
      refine (mem_ends_iff rfl).mpr ⟨front, mem_language_run_iff.mpr ⟨Nat.zero_le _, ?_⟩, rfl, rfl⟩
      intro c hc
      simpa using hfront c hc
    have hbehind : (⟨text.reverse ++ (front.reverse ++ before), rest⟩ : Cursor)
        ∈ (attributeBehind check.wanted).ends ⟨front.reverse ++ before, text ++ rest⟩ :=
      (mem_ends_iff check.isRegular_attributeBehind).mpr ⟨text, htext, rfl, rfl⟩
    have hend := (mem_ends_seq insideTag _ _ _).mpr ⟨_, hinside,
      (mem_ends_seq wordEdge _ _ _).mpr ⟨_, mem_ends_wordEdge.mpr ⟨hedge, rfl⟩, hbehind⟩⟩
    exact List.ne_nil_of_mem hend

/-- **Attributes in a tag.** Behind the name of the tag the pattern for an attribute finds what the
    attributes mention. -/
theorem AttributeCheck.ends_attributeNamed_ne_nil_iff (check : AttributeCheck) (a : Attributes)
    (before : List Char) :
    (attributeNamed (any (check.wanted.map literalAnyCase))).ends ⟨before, a.text ++ ['>']⟩ ≠ [] ↔
      ∃ name ∈ check.wanted, Mentions name a.text := by
  rw [check.ends_attributeNamed_ne_nil]
  constructor
  · rintro ⟨front, text, rest, htext, -, hedge, hlanguage⟩
    obtain ⟨name, hmem, w, gap, hw, hgap, rfl⟩ := mem_language_attributeBehind_iff.mp hlanguage
    obtain ⟨c, more, rfl, hc⟩ := exists_cons_of_mem (isAttributeName_of_mem hmem) hw
    -- the closing angle is no equals sign
    rcases eq_or_exists_of_concat_eq htext with ⟨-, hangle⟩ | ⟨rest, htext⟩
    · exact absurd hangle (by decide)
    · refine ⟨name, hmem, front, _, gap, rest, htext, hw, hgap, ?_⟩
      intro x hx
      have hnotWord := (isWordEdge_cons_iff hc).mp hedge
      rwa [List.head?_append, List.head?_reverse, Option.mem_def.mp hx, Option.some_or] at hnotWord
  · rintro ⟨name, hmem, front, w, gap, rest, htext, hw, hgap, hfront⟩
    obtain ⟨c, more, rfl, hc⟩ := exists_cons_of_mem (isAttributeName_of_mem hmem) hw
    refine ⟨front, c :: more ++ gap ++ ['='], rest ++ ['>'], by simp [htext], ?_, ?_, ?_⟩
    · intro x hx
      exact (a.inside (by simp [htext, hx])).2
    · refine (isWordEdge_cons_iff hc).mpr ?_
      -- the name does not follow that of the tag at once
      cases hlast : front.getLast? with
      | none =>
        obtain rfl := List.getLast?_eq_none_iff.mp hlast
        have hhead := a.isWordAt_head?_text []
        rw [htext] at hhead
        exact absurd (hhead.symm.trans hc) Bool.false_ne_true
      | some d =>
        rw [List.head?_append, List.head?_reverse, hlast, Option.some_or]
        exact hfront d hlast
    · exact mem_language_attributeBehind_iff.mpr ⟨name, hmem, _, gap, hw, hgap, rfl⟩

theorem AttributeCheck.isTagName_tag (check : AttributeCheck) : IsTagName check.tag := by
  cases check <;> exact ⟨by decide, by decide⟩

/-- The check matches at the tag exactly if its attributes mention none of the names. -/
theorem AttributeCheck.ends_ne_nil_iff (check : AttributeCheck) (a : Attributes) :
    (tagWithout check.tag check.wanted).ends ⟨[], check.text a⟩ ≠ [] ↔
      ∀ name ∈ check.wanted, ¬ Mentions name a.text := by
  have hopening := ends_openingTag_of_name check.isTagName_tag (a.isWordAt_head?_text []) []
  have hmentions := check.ends_attributeNamed_ne_nil_iff a (check.tag.toList.reverse ++ ['<'])
  rw [tagWithout, ends_all_cons, text, ends_seq_of_eq hopening, ends_all_cons]
  constructor
  · intro hne name hmem hmention
    have hfound := hmentions.mpr ⟨name, hmem, hmention⟩
    refine hne (ends_seq_of_eq_nil ?_ _)
    rw [ends, if_neg (by simpa using hfound)]
  · intro hnone
    have hnil : (attributeNamed (any (check.wanted.map literalAnyCase))).ends
        ⟨check.tag.toList.reverse ++ ['<'], a.text ++ ['>']⟩ = [] := by
      by_contra hne
      obtain ⟨name, hmem, hmention⟩ := hmentions.mp hne
      exact hnone name hmem hmention
    have habsent : (absent (attributeNamed (any (check.wanted.map literalAnyCase)))).ends
          ⟨check.tag.toList.reverse ++ ['<'], a.text ++ ['>']⟩
        = [⟨check.tag.toList.reverse ++ ['<'], a.text ++ ['>']⟩] := by
      rw [ends, hnil]
      rfl
    -- nothing is mentioned, and the tag is closed by its angle
    have hrest := ends_upToAngle (fun c hc => (a.inside hc).2) (Nat.zero_le _)
      (check.tag.toList.reverse ++ ['<']) []
    rw [ends_seq_of_eq habsent]
    exact List.ne_nil_of_mem (List.mem_of_mem_head? (congrArg List.head? hrest))

/-! ### Reports -/

/-- A check reports something exactly if its pattern is found. -/
theorem reports_iff {check : Check} (hcheck : check ∈ checks) (path : String) (text : List Char) :
    Reports check.id path text ↔ (check.pattern.find? text).isSome = true := by
  have hfindings : Reports check.id path text ↔ checkFindings path text check ≠ [] := by
    rw [← filter_contentFindings hcheck]
    constructor
    · rintro ⟨f, hf, hid⟩
      exact List.ne_nil_of_mem (List.mem_filter.mpr ⟨hf, hid⟩)
    · intro hne
      obtain ⟨f, hf⟩ := List.exists_mem_of_ne_nil _ hne
      exact ⟨f, List.mem_filter.mp hf⟩
  rw [hfindings, checkFindings, Ne, List.map_eq_nil_iff, findAll_eq_nil_iff,
    Option.isSome_iff_ne_none]

theorem beginsWith_tagWithout (tag : String) (wanted : List String) :
    (tagWithout tag wanted).BeginsWith (· == '<') :=
  ((BeginsWith.one _).seq _).seq _

theorem AttributeCheck.exists_check (check : AttributeCheck) :
    ∃ c ∈ checks, c.id = check.id ∧ c.pattern = tagWithout check.tag check.wanted := by
  cases check with
  | image => exact ⟨checks[0], List.getElem_mem _, rfl, rfl⟩
  | link => exact ⟨checks[4], List.getElem_mem _, rfl, rfl⟩
  | input => exact ⟨checks[5], List.getElem_mem _, rfl, rfl⟩

/-- **Tags.** A check for an attribute reports a tag exactly if no attribute shows what it looks
    for. -/
theorem AttributeCheck.reports_iff_not_shows (check : AttributeCheck) (path : String)
    (a : Attributes) :
    Reports check.id path (check.text a) ↔
      ∀ item ∈ a.items, ∀ name ∈ check.wanted, ¬ item.Shows name := by
  obtain ⟨c, hc, hid, hpattern⟩ := check.exists_check
  -- a tag begins at the start only
  have hbehind : ∀ d ∈ check.tag.toList ++ (a.text ++ ['>']), (d == '<') = false := by
    intro d hd
    simp only [List.mem_append, List.mem_singleton] at hd
    rcases hd with hd | hd | rfl
    · have hlower := List.all_eq_true.mp check.isTagName_tag.1 d hd
      rw [beq_eq_false_iff_ne]
      rintro rfl
      cases hlower
    · simpa using (a.inside hd).1
    · rfl
  rw [← hid, reports_iff hc, hpattern, text,
    (beginsWith_tagWithout check.tag check.wanted).isSome_find?_cons hbehind, ← text,
    check.ends_ne_nil_iff]
  constructor
  · intro hnone item hitem name hname hshows
    exact hnone name hname
      ((a.mentions_text_iff (isAttributeName_of_mem hname)).mpr ⟨item, hitem, hshows⟩)
  · intro hnone name hname hmentions
    obtain ⟨item, hitem, hshows⟩ :=
      (a.mentions_text_iff (isAttributeName_of_mem hname)).mp hmentions
    exact hnone item hitem name hname hshows

/-- Nothing stands in an element if the closing tag comes next. -/
theorem exists_mem_ends_remainder (before : List Char) :
    ∃ stop, stop ∈ (remainder .button).ends ⟨before, "</button>".toList⟩ := by
  have hclosing := (EmptyElement.ends_closingTag_closing ⟨.button, [], by simp, by simp⟩ .button
    before []).trans (if_pos rfl)
  have hstop := List.mem_of_mem_head? (congrArg List.head? hclosing)
  exact ⟨_, (mem_ends_seq (star anyTag) (closingTag .button) _ _).mpr
    ⟨_, self_mem_ends_star anyTag _, hstop⟩⟩

/-- **Buttons.** A button without a text is reported whatever its attributes are. -/
theorem reports_buttonText (path : String) (a : Attributes) :
    Reports "missing_aria_label" path (buttonText a) := by
  have hcheck : labelCheck ∈ checks := List.getElem_mem _
  have hopening := ends_openingTag_of_name InteractiveTag.button.isTagName_name
    (a.isWordAt_head?_text "</button>".toList) []
  have hrest := ends_upToAngle (fun c hc => (a.inside hc).2) (Nat.zero_le _)
    ("button".toList.reverse ++ ['<']) "</button>".toList
  -- the tag with its attributes is taken as a whole, and the closing tag is left
  have hends : (emptyElement InteractiveTag.button.name).ends ⟨[], buttonText a⟩
      = (remainder .button).ends
          ⟨'>' :: (a.text.reverse ++ ("button".toList.reverse ++ ['<'])), "</button>".toList⟩ := by
    rw [emptyElement_eq]
    exact (ends_seq_of_eq hopening _).trans (ends_seq_of_eq hrest _)
  have hchoice : labelCheck.pattern.ends ⟨[], buttonText a⟩
      = (emptyElement InteractiveTag.button.name).ends ⟨[], buttonText a⟩
        ++ (emptyElement InteractiveTag.link.name).ends ⟨[], buttonText a⟩ := rfl
  obtain ⟨stop, hstop⟩ := exists_mem_ends_remainder
    ('>' :: (a.text.reverse ++ ("button".toList.reverse ++ ['<'])))
  refine (reports_iff hcheck path _).mpr ((isSome_findFrom_iff _ _ _).mpr ⟨[], _, rfl, stop, ?_⟩)
  show stop ∈ labelCheck.pattern.ends ⟨[], buttonText a⟩
  rw [hchoice, hends]
  exact List.mem_append_left _ hstop

/-! ### Names -/

/-- The names of the attributes decide what is reported of a tag. -/
def DecidedByNames (path : String) (a : Attributes) : Prop :=
  (∀ check : AttributeCheck, Reports check.id path (check.text a) ↔
      ∀ item ∈ a.items, ∀ name ∈ check.wanted, ¬ item.Named name) ∧
    (Reports "missing_aria_label" path (buttonText a) ↔
      ∀ item ∈ a.items, ¬ item.Named "aria-label")

/-- **Attributes of a tag.** A check for an attribute reports a tag exactly if no attribute shows
    what it looks for, and a button without a text is reported in any case.  So the names of the
    attributes decide exactly if an attribute has one of the names wherever an attribute shows one,
    and if no attribute is a label. -/
theorem attributes_reported_iff (path : String) (a : Attributes) :
    (∀ check : AttributeCheck, Reports check.id path (check.text a) ↔
        ∀ item ∈ a.items, ∀ name ∈ check.wanted, ¬ item.Shows name)
      ∧ Reports "missing_aria_label" path (buttonText a)
      ∧ (DecidedByNames path a ↔
        (∀ check : AttributeCheck, (∃ item ∈ a.items, ∃ name ∈ check.wanted, item.Shows name) →
            ∃ item ∈ a.items, ∃ name ∈ check.wanted, item.Named name)
          ∧ ∀ item ∈ a.items, ¬ item.Named "aria-label") := by
  have htag := fun check : AttributeCheck => check.reports_iff_not_shows path a
  have hbutton := reports_buttonText path a
  refine ⟨htag, hbutton, ?_⟩
  rw [DecidedByNames, iff_true_left hbutton]
  -- a button is always reported, so the label has to be missing; each other check for itself
  refine and_congr_left' (forall_congr' fun check => ?_)
  rw [htag]
  constructor
  · rintro hsame ⟨item, hitem, name, hname, hshows⟩
    by_contra hnone
    refine hsame.mpr (fun other hother wanted hwanted hnamed => ?_) item hitem name hname hshows
    exact hnone ⟨other, hother, wanted, hwanted, hnamed⟩
  · intro himplies
    constructor
    · exact fun hnone item hitem name hname hnamed => hnone item hitem name hname (.inl hnamed)
    · intro hnone item hitem name hname hshows
      obtain ⟨other, hother, wanted, hwanted, hnamed⟩ :=
        himplies ⟨item, hitem, name, hname, hshows⟩
      exact hnone other hother wanted hwanted hnamed

/-! ### An attribute with a longer name -/

namespace Sample

/-- The attribute `data-alt="x"`, which is no alternative text. -/
def dataAlt : Attribute where
  gap := [' ']
  name := ['d', 'a', 't', 'a', '-', 'a', 'l', 't']
  value := ['x']
  gap_ne_nil := by simp
  isBlank_gap := rfl
  isAlpha_head := ⟨'d', rfl, rfl⟩
  isNameChar_name := List.all_eq_true.mp (by decide)
  value_inside := by simp

/-- An image with it is not reported, though none of its attributes is an alternative text. -/
theorem dataAlt_not_reported :
    AttributeCheck.image.text ⟨[dataAlt], [], rfl⟩ = "<img data-alt=\"x\">".toList
      ∧ (∀ item ∈ [dataAlt], ¬ item.Named "alt")
      ∧ ¬ Reports "missing_alt" "index.html" (AttributeCheck.image.text ⟨[dataAlt], [], rfl⟩) := by
  refine ⟨by decide, by simp [Attribute.Named]; decide, ?_⟩
  rintro ⟨f, hf, hid⟩
  have hnone :
      contentFindings "index.html" (AttributeCheck.image.text ⟨[dataAlt], [], rfl⟩) = [] := by
    decide +kernel
  rw [hnone] at hf
  cases hf

end Sample

end PlainScan.Accessibility

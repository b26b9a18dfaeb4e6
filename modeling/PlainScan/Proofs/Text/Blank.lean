import Mathlib.Data.List.Basic
import PlainScan.Text.Blank
import PlainScan.Text.Word

namespace PlainScan.Text

/-!
# Texts without blanks at their ends

What `strip` leaves of a text, told without the way it goes about it.

* `blankCodes` — the blanks one by one; `isWord_eq_false_of_isBlank` — none belongs to a word.
* `IsBare` — neither end of a text is blank.
* `IsCore` — a bare text with nothing but blanks around it.
* `isCore_strip`, `IsCore.strip_eq` — every text has one core, and `strip` finds it.
-/

/-! ### The characters -/

/-- The code points of all blanks. -/
def blankCodes : List Nat :=
  [0x09, 0x0A, 0x0B, 0x0C, 0x0D, 0x1C, 0x1D, 0x1E, 0x1F, 0x20, 0x85, 0xA0, 0x1680, 0x2000, 0x2001,
    0x2002, 0x2003, 0x2004, 0x2005, 0x2006, 0x2007, 0x2008, 0x2009, 0x200A, 0x2028, 0x2029, 0x202F,
    0x205F, 0x3000]

theorem toNat_mem_blankCodes {c : Char} (h : isBlank c = true) : c.toNat ∈ blankCodes := by
  simp only [isBlank] at h
  simp only [blankCodes, List.mem_cons, List.not_mem_nil, or_false]
  split at h
  · simp only [Bool.or_eq_true, Bool.and_eq_true, beq_iff_eq, decide_eq_true_eq] at h
    omega
  · simp only [Bool.or_eq_true, Bool.and_eq_true, beq_iff_eq, decide_eq_true_eq] at h
    omega

/-- No blank belongs to a word. -/
theorem isWord_eq_false_of_isBlank {c : Char} (h : isBlank c = true) : isWord c = false := by
  have hnone : ∀ n ∈ blankCodes, isWord (Char.ofNat n) = false := by decide +kernel
  have hword := hnone c.toNat (toNat_mem_blankCodes h)
  rwa [Char.ofNat_toNat] at hword

/-! ### Bare texts -/

/-- Neither the first character nor the last is blank; so it is for the empty text. -/
structure IsBare (text : List Char) : Prop where
  head : ∀ c ∈ text.head?, isBlank c = false
  last : ∀ c ∈ text.getLast?, isBlank c = false

/-- A bare text is the core of another if that has only blanks besides. -/
structure IsCore (core text : List Char) : Prop where
  isBare : IsBare core
  around : ∃ before behind, text = before ++ (core ++ behind) ∧ isBlankText before = true ∧
    isBlankText behind = true

/-- A text in reverse has blanks at the same places. -/
theorem isBlankText_reverse (text : List Char) :
    isBlankText text.reverse = isBlankText text := List.all_reverse

/-- A text has a character that is not blank, or nothing else. -/
theorem isBlankText_eq_false_iff (text : List Char) :
    isBlankText text = false ↔ ∃ c ∈ text, isBlank c = false := by
  simp only [isBlankText, List.all_eq_false, Bool.not_eq_true]

/-! ### One end -/

/-- What the left end loses is blank. -/
theorem exists_stripLeft (text : List Char) :
    ∃ before, text = before ++ stripLeft text ∧ isBlankText before = true :=
  ⟨text.takeWhile isBlank, (List.takeWhile_append_dropWhile).symm, List.all_takeWhile⟩

/-- The right end is the left end of the text in reverse. -/
theorem stripRight_eq (text : List Char) : stripRight text = (stripLeft text.reverse).reverse := rfl

/-- What the right end loses is blank. -/
theorem exists_stripRight (text : List Char) :
    ∃ behind, text = stripRight text ++ behind ∧ isBlankText behind = true := by
  obtain ⟨before, htext, hblank⟩ := exists_stripLeft text.reverse
  refine ⟨before.reverse, ?_, ?_⟩
  · rw [stripRight_eq, ← List.reverse_append, ← htext, List.reverse_reverse]
  · rw [isBlankText_reverse, hblank]

/-- The first character that is left is not blank. -/
theorem head?_stripLeft {text : List Char} {c : Char} (h : c ∈ (stripLeft text).head?) :
    isBlank c = false := by
  have hnot := List.head?_dropWhile_not isBlank text
  rw [stripLeft, Option.mem_def] at h
  rw [h] at hnot
  exact hnot

/-- Blanks in front are lost. -/
theorem stripLeft_append {before : List Char} (h : isBlankText before = true)
    (text : List Char) : stripLeft (before ++ text) = stripLeft text := by
  rw [isBlankText, List.all_eq_true] at h
  exact List.dropWhile_append_of_pos h

/-- A text that starts with no blank loses nothing in front. -/
theorem stripLeft_of_head {text : List Char} (h : ∀ c ∈ text.head?, isBlank c = false) :
    stripLeft text = text := by
  cases text with
  | nil => rfl
  | cons c rest =>
    have hc : isBlank c = false := h c rfl
    rw [stripLeft, List.dropWhile_cons_of_neg (by rw [hc]; exact Bool.false_ne_true)]

/-! ### Both ends -/

/-- What is left when the blanks at the ends are gone is the core. -/
theorem isCore_strip (text : List Char) : IsCore (strip text) text := by
  obtain ⟨before, htext, hbefore⟩ := exists_stripLeft text
  obtain ⟨behind, hleft, hbehind⟩ := exists_stripRight (stripLeft text)
  refine ⟨⟨?_, ?_⟩, before, behind, ?_, hbefore, hbehind⟩
  · -- a first character that is left was the first before the right end lost anything
    intro c hc
    have hfirst : c ∈ (stripLeft text).head? := by
      rw [strip, Option.mem_def] at hc
      rw [hleft, List.head?_append, hc]
      rfl
    exact head?_stripLeft hfirst
  · intro c hc
    rw [strip, stripRight_eq, List.getLast?_reverse] at hc
    exact head?_stripLeft hc
  · rw [strip, ← hleft, ← htext]

/-- The core is found. -/
theorem IsCore.strip_eq {core text : List Char} (h : IsCore core text) : strip text = core := by
  obtain ⟨before, behind, rfl, hbefore, hbehind⟩ := h.around
  rw [strip, stripLeft_append hbefore]
  cases core with
  | nil =>
    rw [List.nil_append, (stripLeft_eq_nil_iff behind).mpr hbehind, stripRight_of_nil]
  | cons c rest =>
    have hleft : stripLeft (c :: rest ++ behind) = c :: rest ++ behind := by
      apply stripLeft_of_head
      intro d hd
      exact h.isBare.head d hd
    rw [hleft, stripRight_eq, List.reverse_append, stripLeft_append, stripLeft_of_head,
      List.reverse_reverse]
    · intro d hd
      rw [List.head?_reverse] at hd
      exact h.isBare.last d hd
    · rw [isBlankText_reverse, hbehind]

/-- A bare text is left as it is. -/
theorem IsBare.strip_eq {text : List Char} (h : IsBare text) : strip text = text :=
  IsCore.strip_eq ⟨h, [], [], (List.append_nil text).symm, rfl, rfl⟩

/-- A text with a character that is not blank has one left. -/
theorem strip_ne_nil {text : List Char} (h : isBlankText text = false) : strip text ≠ [] := by
  intro hnil
  obtain ⟨-, before, behind, htext, hbefore, hbehind⟩ := isCore_strip text
  rw [htext, hnil, isBlankText, List.nil_append, List.all_append] at h
  rw [isBlankText] at hbefore hbehind
  rw [hbefore, hbehind] at h
  cases h

/-- A bare text is not blank if it has any character. -/
theorem IsBare.isBlankText_eq_false {text : List Char} (h : IsBare text) (hne : text ≠ []) :
    isBlankText text = false := by
  cases text with
  | nil => exact absurd rfl hne
  | cons c rest =>
    exact (isBlankText_eq_false_iff _).mpr ⟨c, List.mem_cons_self, h.head c rfl⟩

end PlainScan.Text

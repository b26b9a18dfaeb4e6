import PlainScan.Proofs.Text.Blank
import PlainScan.Translation.Validation

namespace PlainScan

/-!
# Texts as they are shown

A text of a candidate is shown without the blanks at its ends, and cut where it is too long.

* `Shows` — a text as it is shown for another one.
* `shows_shownText` — every text that is not blank is shown so.
* `Shows.shownText_eq` — what is shown would itself be shown as it is.
-/

/-! ### Texts -/

/-- One text is shown for another: it has a character that is not blank and no more than 500
    characters.  It is the other one without the blanks at its ends if that is short enough, and
    the first 497 characters of it and three dots otherwise. -/
structure Shows (shown source : String) : Prop where
  not_blank : ∃ c ∈ shown.toList, Text.isBlank c = false
  length_le : shown.length ≤ 500
  text_eq : ∃ core, Text.IsCore core source.toList
    ∧ (core.length ≤ 500 → shown.toList = core)
    ∧ (500 < core.length → shown.toList = core.take 497 ++ "...".toList)

/-- A text as it is shown: without the blanks around it, and cut where it is too long. -/
def shownText (text : String) : String := String.ofList (trim (Text.strip text.toList))

theorem toList_shownText (text : String) :
    (shownText text).toList = trim (Text.strip text.toList) := String.toList_ofList

/-- No text is cut to more than the limit. -/
theorem length_trim_le (text : List Char) : (trim text).length ≤ textLimit := by
  unfold trim
  split
  · assumption
  · rw [List.length_append, List.length_take]
    simp only [textLimit, ellipsis, List.length_cons, List.length_nil]
    omega

/-- A text within the limit is not cut. -/
theorem trim_of_le {text : List Char} (h : text.length ≤ textLimit) : trim text = text :=
  if_pos h

/-- Nothing is left only where nothing was. -/
theorem trim_ne_nil {text : List Char} (h : text ≠ []) : trim text ≠ [] := by
  unfold trim
  split
  · exact h
  · exact List.append_ne_nil_of_right_ne_nil _ (List.cons_ne_nil _ _)

/-- A text that is cut gets no blank at its ends: it begins as before and ends in a dot. -/
theorem isBare_trim {text : List Char} (h : Text.IsBare text) : Text.IsBare (trim text) := by
  unfold trim
  split
  · exact h
  · constructor
    · intro c hc
      apply h.head
      cases text with
      | nil => contradiction
      | cons d rest => exact hc
    · intro c hc
      rw [List.getLast?_append] at hc
      cases hc
      decide

/-- **Shown once.** A text that is shown for another is shown as it is. -/
theorem Shows.shownText_eq {shown source : String} (h : Shows shown source) :
    shownText shown = shown := by
  obtain ⟨core, hcore, hshort, hlong⟩ := h.text_eq
  -- it is the core of the other text after cutting, which has no blanks at its ends
  have htrim : shown.toList = trim core := by
    unfold trim
    split
    · next hle => exact hshort hle
    · next hgt => exact hlong (Nat.lt_of_not_le hgt)
  have hbare : Text.IsBare shown.toList := by
    rw [htrim]
    exact isBare_trim hcore.isBare
  apply String.toList_injective
  rw [toList_shownText, hbare.strip_eq, trim_of_le]
  rw [String.length_toList]
  exact h.length_le

/-- A text with a character that is not blank is shown. -/
theorem shows_shownText {text : String} (h : ∃ c ∈ text.toList, Text.isBlank c = false) :
    Shows (shownText text) text := by
  have hcore := Text.isCore_strip text.toList
  have hne : trim (Text.strip text.toList) ≠ [] :=
    trim_ne_nil (Text.strip_ne_nil ((Text.isBlankText_eq_false_iff _).mpr h))
  refine ⟨?_, ?_, Text.strip text.toList, hcore, ?_, ?_⟩
  · rw [toList_shownText, ← Text.isBlankText_eq_false_iff]
    exact (isBare_trim hcore.isBare).isBlankText_eq_false hne
  · rw [← String.length_toList, toList_shownText]
    exact length_trim_le _
  · intro hle
    rw [toList_shownText, trim_of_le hle]
  · intro hlt
    rw [toList_shownText]
    exact if_neg (Nat.not_le_of_lt hlt)

end PlainScan

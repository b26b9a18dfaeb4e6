import PlainScan.Text.Surrogate

namespace PlainScan.Text

/-!
# Code points and encodings

* `codePoints_injective` — texts are told apart by their code points, and `eq_of_not_isBefore` says
  that their order leaves only equal ones in the same place.
* `isEncodable_append`, `isEncodable_intercalate` — what is put together can be encoded exactly if
  its parts can.
-/

/-! ### Code points -/

theorem isLone_iff {c : Char} :
    isLone c = true ↔ 0xD800 + loneShift ≤ c.toNat ∧ c.toNat ≤ 0xDFFF + loneShift := by
  simp [isLone]

/-- No character has the number of half of a pair. -/
theorem not_isHalf_toNat (c : Char) : ¬ (0xD800 ≤ c.toNat ∧ c.toNat ≤ 0xDFFF) := by
  have hvalid := c.valid
  simp only [UInt32.isValidChar, Nat.isValidChar] at hvalid
  show ¬ (0xD800 ≤ c.val.toNat ∧ c.val.toNat ≤ 0xDFFF)
  omega

/-- Different characters stand for different code points: those of the halves are free. -/
theorem codePoint_injective {c d : Char} (h : codePoint c = codePoint d) : c = d := by
  have hsame : c.toNat = d.toNat := by
    have hc := not_isHalf_toNat c
    have hd := not_isHalf_toNat d
    simp only [codePoint, isLone_iff, loneShift] at h
    split at h <;> split at h <;> omega
  exact Char.ext (UInt32.toNat_inj.mp hsame)

/-- **Code points.** Texts with the same code points are the same. -/
theorem codePoints_injective {s t : String} (h : codePoints s = codePoints t) : s = t :=
  String.toList_inj.mp (List.map_inj_right (fun _ _ => codePoint_injective) |>.mp h)

/-! ### Order -/

theorem isBefore_self (s : String) : isBefore s s = false :=
  List.lex_eq_false_iff_ge.mpr (List.le_refl _)

theorem not_isBefore_of_isBefore {s t : String} (h : isBefore s t = true) :
    isBefore t s = false :=
  List.lex_eq_false_iff_ge.mpr (List.le_of_lt (List.lex_eq_true_iff_lt.mp h))

theorem not_isBefore_trans {s t u : String} (h : isBefore t s = false)
    (h' : isBefore u t = false) : isBefore u s = false :=
  List.lex_eq_false_iff_ge.mpr
    (List.le_trans (List.lex_eq_false_iff_ge.mp h) (List.lex_eq_false_iff_ge.mp h'))

theorem not_isBefore_total (s t : String) : isBefore t s = false ∨ isBefore s t = false :=
  (List.le_total _ _).imp List.lex_eq_false_iff_ge.mpr List.lex_eq_false_iff_ge.mpr

/-- Texts of which neither stands before the other are the same. -/
theorem eq_of_not_isBefore {s t : String} (h : isBefore t s = false) (h' : isBefore s t = false) :
    s = t :=
  codePoints_injective
    (List.le_antisymm (List.lex_eq_false_iff_ge.mp h) (List.lex_eq_false_iff_ge.mp h'))

/-! ### Encodings -/

theorem isEncodable_append (s t : String) :
    isEncodable (s ++ t) = (isEncodable s && isEncodable t) := by
  simp [isEncodable]

/-- Texts joined by one that can be encoded can be encoded exactly if each of them can. -/
theorem isEncodable_intercalate {separator : String} (h : isEncodable separator = true)
    (texts : List String) :
    isEncodable (separator.intercalate texts) = texts.all isEncodable := by
  induction texts with
  | nil => rfl
  | cons first rest ih =>
    cases rest with
    | nil => simp
    | cons second more =>
      rw [String.intercalate_cons_cons, isEncodable_append, isEncodable_append, ih, h,
        Bool.and_true, List.all_cons, List.all_cons, List.all_cons]

end PlainScan.Text

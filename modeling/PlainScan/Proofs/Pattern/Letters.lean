import Mathlib.Data.List.Forall2
import PlainScan.Pattern.Build
import PlainScan.Text.Word

namespace PlainScan.Pattern

/-!
# Letters in any case

A pattern that ignores case takes an ASCII letter in either case, and besides the three letters
outside ASCII that have one of these as the other case.

* `isUpper_iff`, `isLower_iff`, `isDigit_iff` — the codes of ASCII letters and digits.
* `toLower_of_not_isUpper`, `toNat_toLower_of_isUpper` — the lower case of a character.
* `sameLetter_of_isNameChar` — within names of ASCII letters, digits and hyphens nothing but the
  case is ignored; `sameLetter_hyphen_iff` — of a hyphen nothing is.
* `isWord_of_sameLetter` — words are taken for words.
-/

/-! ### Cases -/

/-- The codes of the letters in upper case. -/
theorem isUpper_iff {c : Char} : c.isUpper = true ↔ 65 ≤ c.toNat ∧ c.toNat ≤ 90 :=
  decide_eq_true_iff.trans (and_congr UInt32.le_iff_toNat_le UInt32.le_iff_toNat_le)

/-- The codes of the letters in lower case. -/
theorem isLower_iff {c : Char} : c.isLower = true ↔ 97 ≤ c.toNat ∧ c.toNat ≤ 122 := by
  have hrange : c.isLower = (decide ('a'.val ≤ c.val) && decide (c.val ≤ 'z'.val)) := rfl
  rw [hrange, Bool.and_eq_true, decide_eq_true_iff, decide_eq_true_iff]
  exact and_congr UInt32.le_iff_toNat_le UInt32.le_iff_toNat_le

/-- The codes of the digits. -/
theorem isDigit_iff {c : Char} : c.isDigit = true ↔ 48 ≤ c.toNat ∧ c.toNat ≤ 57 := by
  have hrange : c.isDigit = (decide ('0'.val ≤ c.val) && decide (c.val ≤ '9'.val)) := rfl
  rw [hrange, Bool.and_eq_true, decide_eq_true_iff, decide_eq_true_iff]
  exact and_congr UInt32.le_iff_toNat_le UInt32.le_iff_toNat_le

/-- A character is its own lower case unless it is an ASCII letter in upper case. -/
theorem toLower_of_not_isUpper {c : Char} (h : c.isUpper = false) : c.toLower = c :=
  dif_neg fun hrange => Bool.false_ne_true (h.symm.trans (decide_eq_true hrange))

/-- An ASCII letter in upper case lies so far before its lower case. -/
theorem toNat_toLower_of_isUpper {c : Char} (h : c.isUpper = true) :
    c.toLower.toNat = c.toNat + 32 := by
  have hval : c.toLower.val = c.val + 32 := congrArg Char.val (dif_pos (of_decide_eq_true h))
  have hle : c.val.toNat ≤ 90 := (isUpper_iff.mp h).2
  show c.toLower.val.toNat = c.val.toNat + 32
  rw [hval, UInt32.toNat_add, show UInt32.toNat 32 = 32 from rfl]
  exact Nat.mod_eq_of_lt (by omega)

/-- No letter is in both cases. -/
theorem isUpper_of_isLower {c : Char} (h : c.isLower = true) : c.isUpper = false := by
  have hlower := isLower_iff.mp h
  by_contra hupper
  have hrange := isUpper_iff.mp (by simpa using hupper)
  omega

/-! ### Characters that are taken for each other -/

/-- A character in lower case equals itself when case is ignored. -/
theorem sameLetter_self {c : Char} (h : c.isUpper = false) : sameLetter c c = true := by
  simp [sameLetter, toLower_of_not_isUpper h]

/-- A character of a name: an ASCII letter, a digit or a hyphen. -/
def isNameChar (c : Char) : Bool := c.isAlphanum || c == '-'

/-- In a name nothing but the case is ignored. -/
theorem sameLetter_of_isNameChar {x c : Char} (h : isNameChar c = true) :
    sameLetter x c = true ↔ x = c.toLower := by
  -- the relatives outside ASCII are in no name
  have hdotless : (c == 'ı') = false := beq_eq_false_iff_ne.mpr fun hc => by subst hc; cases h
  have hdotted : (c == 'İ') = false := beq_eq_false_iff_ne.mpr fun hc => by subst hc; cases h
  have hlong : (c == 'ſ') = false := beq_eq_false_iff_ne.mpr fun hc => by subst hc; cases h
  have hkelvin : (c == '\u212A') = false := beq_eq_false_iff_ne.mpr fun hc => by subst hc; cases h
  rw [sameLetter, hdotless, hdotted, hlong, hkelvin]
  simp only [Bool.or_false, Bool.and_false, beq_iff_eq]
  exact eq_comm

/-- A name is taken for a text if it is that text in lower case. -/
theorem forall₂_sameLetter_iff {text name : List Char} (hname : ∀ c ∈ name, isNameChar c = true) :
    List.Forall₂ (fun x c => sameLetter x c = true) text name ↔ name.map Char.toLower = text := by
  induction name generalizing text with
  | nil => rw [List.forall₂_nil_right_iff, List.map_nil, eq_comm]
  | cons c rest ih =>
    rw [List.forall_mem_cons] at hname
    cases text with
    | nil => simp
    | cons x text =>
      rw [List.forall₂_cons, sameLetter_of_isNameChar hname.1, ih hname.2, List.map_cons,
        List.cons.injEq, eq_comm]

/-- A hyphen is taken for itself only. -/
theorem sameLetter_hyphen_iff {c : Char} : sameLetter '-' c = true ↔ c = '-' := by
  constructor
  · intro h
    have hlower : c.toLower = '-' := by simpa [sameLetter] using h
    by_cases hupper : c.isUpper = true
    · -- the lower case of a letter is further on than the hyphen
      have hcode := toNat_toLower_of_isUpper hupper
      rw [hlower, show '-'.toNat = 45 from rfl] at hcode
      have hle := (isUpper_iff.mp hupper).1
      omega
    · rwa [toLower_of_not_isUpper (Bool.eq_false_iff.mpr hupper)] at hlower
  · rintro rfl
    rfl

/-! ### Words -/

/-- The ASCII letters and digits. -/
theorem isAlphanum_iff {c : Char} :
    c.isAlphanum = true ↔ (c.isUpper = true ∨ c.isLower = true) ∨ c.isDigit = true := by
  have hkinds : c.isAlphanum = ((c.isUpper || c.isLower) || c.isDigit) := rfl
  rw [hkinds, Bool.or_eq_true, Bool.or_eq_true]

/-- An ASCII letter or digit belongs to a word. -/
theorem isWord_of_isAlphanum {c : Char} (h : c.isAlphanum = true) : Text.isWord c = true := by
  have hascii : c.toNat < 0x80 := by
    rw [isAlphanum_iff, isUpper_iff, isLower_iff, isDigit_iff] at h
    omega
  rw [Text.isWord, if_pos hascii, h, Bool.true_or]

theorem isWord_of_isUpper {c : Char} (h : c.isUpper = true) : Text.isWord c = true :=
  isWord_of_isAlphanum (isAlphanum_iff.mpr (.inl (.inl h)))

theorem isWord_of_isLower {c : Char} (h : c.isLower = true) : Text.isWord c = true :=
  isWord_of_isAlphanum (isAlphanum_iff.mpr (.inl (.inr h)))

/-- What equals a character of a word when case is ignored belongs to a word. -/
theorem isWord_of_sameLetter {x c : Char} (h : sameLetter x c = true)
    (hx : Text.isWord x = true) : Text.isWord c = true := by
  simp only [sameLetter, Bool.or_eq_true, Bool.and_eq_true, beq_iff_eq] at h
  rcases h with ((h | ⟨-, rfl | rfl⟩) | ⟨-, rfl⟩) | ⟨-, rfl⟩
  · by_cases hupper : c.isUpper = true
    · exact isWord_of_isUpper hupper
    · rw [toLower_of_not_isUpper (Bool.eq_false_iff.mpr hupper)] at h
      rwa [h]
  -- the three relatives outside ASCII are letters
  · decide +kernel
  · decide +kernel
  · decide +kernel
  · decide +kernel

end PlainScan.Pattern

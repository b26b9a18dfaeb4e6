import PlainScan.Proofs.Pattern.Letters
import PlainScan.Text.LowerCase

namespace PlainScan.Text

/-!
# Lower case stays

A text in lower case is its own lower case.  For single characters this is a property of the table:
no row of it moves a letter to where a row moves letters from.

* `CaseShift.Moves`, `CaseShift.image` — what a row does to a code point.
* `capitalRows` — the rows of the table and that of ASCII; `lowerChar_cases` — a character stays or
  is moved by one of them.
* `capitalRows_apart` — the rows lead out of their own reach.
* `IsSmall` — a character that stays, whatever stands around it.
* `lower_lower` — lower case stays.
-/

/-! ### Rows -/

namespace CaseShift

/-- The row takes the code point for an upper-case letter. -/
def Moves (r : CaseShift) (n : Nat) : Prop :=
  r.first ≤ n ∧ n ≤ r.last ∧ (n - r.first) % r.step = 0

/-- Where the row moves a code point. -/
def image (r : CaseShift) (n : Nat) : Nat := (n + r.shift).toNat

/-- What the first row moves somewhere is out of reach of the second one: it lies before, behind, or
    in the gaps.  It is checked by arithmetic alone, so that all pairs of rows can be gone through.
    -/
def apart (r q : CaseShift) : Bool :=
  Nat.blt (r.image r.last) q.first || Nat.blt q.last (r.image r.first)
    || ((Nat.beq r.step 2 || Nat.beq r.first r.last) && Nat.beq q.step 2
      && Nat.blt 0 (r.image r.first) && Nat.beq ((r.image r.first + q.first) % 2) 1)

/-- The check tells what it says. -/
theorem not_moves_image {r q : CaseShift} (h : r.apart q = true) {n : Nat} (hn : r.Moves n) :
    ¬ q.Moves (r.image n) := by
  obtain ⟨hfirst, hlast, hstep⟩ := hn
  rintro ⟨hfirst', hlast', hstep'⟩
  simp only [apart, image, Bool.or_eq_true, Bool.and_eq_true, Nat.blt_eq, Nat.beq_eq] at *
  rcases h with (hbefore | hbehind) | ⟨⟨⟨hsame, htwo⟩, hpositive⟩, hodd⟩
  · omega
  · omega
  · -- the first row keeps the parity that the second one does not have
    rw [htwo] at hstep'
    rcases hsame with hsame | hsame
    · rw [hsame] at hstep
      omega
    · omega

end CaseShift

/-- The upper-case letters of ASCII, with the way to their lower-case forms. -/
def asciiRow : CaseShift := ⟨0x41, 0x5a, 1, 32⟩

/-- The dotted capital I, which has a lower-case form of its own. -/
def dottedRow : CaseShift := ⟨0x130, 0x130, 1, 0⟩

/-- All rows of upper-case letters that have a one-character lower-case form. -/
def capitalRows : List CaseShift := asciiRow :: lowerTable

/-- **The table.** No row moves a letter to where a row moves letters from, nor to the dotted I. -/
theorem capitalRows_apart :
    capitalRows.all (fun r => (dottedRow :: capitalRows).all r.apart) = true := by
  decide +kernel

/-! ### Characters -/

/-- A character outside of the rows stays. -/
theorem lowerChar_of_not_moves {c : Char} (h : ∀ r ∈ capitalRows, ¬ r.Moves c.toNat) :
    lowerChar c = c := by
  rw [lowerChar]
  split
  · refine Pattern.toLower_of_not_isUpper ?_
    have hascii := h asciiRow List.mem_cons_self
    by_contra hupper
    have hrange := Pattern.isUpper_iff.mp (by simpa using hupper)
    exact hascii ⟨hrange.1, hrange.2, Nat.mod_one _⟩
  · split
    · next r hfind =>
      have hmoves := List.find?_some hfind
      simp only [Bool.and_eq_true, decide_eq_true_eq, beq_iff_eq] at hmoves
      exact absurd ⟨hmoves.1.1, hmoves.1.2, hmoves.2⟩
        (h r (List.mem_cons_of_mem _ (List.mem_of_find?_eq_some hfind)))
    · rfl

/-- A character stays, or a row moves it. -/
theorem lowerChar_cases (c : Char) :
    lowerChar c = c ∨ ∃ r ∈ capitalRows, r.Moves c.toNat
      ∧ lowerChar c = Char.ofNat (r.image c.toNat) := by
  by_cases hsmall : c.toNat < 0x80
  · have hlower : lowerChar c = c.toLower := if_pos hsmall
    rw [hlower]
    cases hupper : c.isUpper with
    | false => exact Or.inl (Pattern.toLower_of_not_isUpper hupper)
    | true =>
      have hrange := Pattern.isUpper_iff.mp hupper
      refine Or.inr ⟨asciiRow, List.mem_cons_self, ⟨hrange.1, hrange.2, Nat.mod_one _⟩, ?_⟩
      -- the row of the ASCII capitals does what the lower case of a character does
      have himage : asciiRow.image c.toNat = c.toLower.toNat := by
        rw [Pattern.toNat_toLower_of_isUpper hupper]
        show ((c.toNat : Int) + 32).toNat = c.toNat + 32
        omega
      rw [himage, Char.ofNat_toNat]
  · rw [lowerChar, if_neg hsmall]
    split
    · next r hfind =>
      have hmoves := List.find?_some hfind
      simp only [Bool.and_eq_true, decide_eq_true_eq, beq_iff_eq] at hmoves
      exact Or.inr ⟨r, List.mem_cons_of_mem _ (List.mem_of_find?_eq_some hfind),
        ⟨hmoves.1.1, hmoves.1.2, hmoves.2⟩, rfl⟩
    · exact Or.inl rfl

/-- A character that stays, whatever stands around it. -/
def IsSmall (c : Char) : Prop := lowerChar c = c ∧ c ≠ 'İ'

/-- The code point of a character is the one that it was made from, unless there is none. -/
theorem toNat_ofNat_cases (n : Nat) : (Char.ofNat n).toNat = n ∨ (Char.ofNat n).toNat = 0 := by
  by_cases hvalid : n.isValidChar
  · left
    rw [Char.ofNat, dif_pos hvalid]
    rfl
  · right
    rw [Char.ofNat, dif_neg hvalid]
    rfl

/-- **Lower case of a character.** It stays. -/
theorem isSmall_lowerChar {c : Char} (hc : c ≠ 'İ') : IsSmall (lowerChar c) := by
  rcases lowerChar_cases c with hstays | ⟨r, hr, hmoves, hlower⟩
  · rw [IsSmall, hstays, hstays]
    exact ⟨rfl, hc⟩
  -- what a row takes a capital to is taken nowhere by any row
  · have hapart : ∀ q ∈ dottedRow :: capitalRows, ¬ q.Moves (r.image c.toNat) := by
      have hrow := List.all_eq_true.mp capitalRows_apart r hr
      exact fun q hq => CaseShift.not_moves_image (List.all_eq_true.mp hrow q hq) hmoves
    -- no row takes the zero either, which stands for code points of no character
    have hcode : ∀ q ∈ dottedRow :: capitalRows, ¬ q.Moves (lowerChar c).toNat := by
      intro q hq
      rw [hlower]
      rcases toNat_ofNat_cases (r.image c.toNat) with hsame | hzero
      · rw [hsame]
        exact hapart q hq
      · rw [hzero]
        have hpositive : (dottedRow :: capitalRows).all (fun q => Nat.blt 0 q.first) = true := by
          decide +kernel
        have hfirst := List.all_eq_true.mp hpositive q hq
        rw [Nat.blt_eq] at hfirst
        exact fun hq => absurd hq.1 (Nat.not_le.mpr hfirst)
    refine ⟨lowerChar_of_not_moves fun q hq => hcode q (List.mem_cons_of_mem _ hq), ?_⟩
    intro hdotted
    refine hcode dottedRow List.mem_cons_self ?_
    rw [hdotted]
    exact ⟨Nat.le_refl _, Nat.le_refl _, rfl⟩

/-! ### Texts -/

/-- What becomes of a character in a text stays. -/
theorem isSmall_of_mem_lowerFrom {before text : List Char} {c : Char}
    (h : c ∈ lowerFrom before text) : IsSmall c := by
  induction text generalizing before with
  | nil => exact absurd h List.not_mem_nil
  | cons d rest ih =>
    rw [lowerFrom, List.mem_append] at h
    -- the character comes from the first one: a sigma in one of its two forms, a dotted capital, or
    -- any other
    rcases h with hhere | hrest
    · split at hhere
      · split at hhere
        · rw [List.mem_singleton.mp hhere]
          exact ⟨by decide +kernel, by decide⟩
        · rw [List.mem_singleton.mp hhere]
          exact ⟨by decide +kernel, by decide⟩
      · split at hhere
        · rcases List.mem_pair.mp hhere with rfl | rfl
          · exact ⟨by decide +kernel, by decide⟩
          · exact ⟨by decide +kernel, by decide⟩
        · next hdotted =>
          rw [List.mem_singleton.mp hhere]
          exact isSmall_lowerChar (by simpa using hdotted)
    · exact ih hrest

/-- A text of characters that stay is its own lower case. -/
theorem lowerFrom_eq_self {before text : List Char} (h : ∀ c ∈ text, IsSmall c) :
    lowerFrom before text = text := by
  induction text generalizing before with
  | nil => rfl
  | cons c rest ih =>
    rw [List.forall_mem_cons] at h
    obtain ⟨⟨hstays, hdotted⟩, hrest⟩ := h
    have hsigma : c ≠ 'Σ' := by
      rintro rfl
      exact absurd hstays (by decide +kernel)
    rw [lowerFrom, ih hrest, if_neg (by simpa using hsigma), if_neg (by simpa using hdotted),
      hstays]
    rfl

/-- **Lower case stays.** -/
theorem lower_lower (text : List Char) : lower (lower text) = lower text :=
  lowerFrom_eq_self fun _ h => isSmall_of_mem_lowerFrom h

theorem lowerString_lowerString (text : String) :
    lowerString (lowerString text) = lowerString text := by
  rw [lowerString, lowerString, String.toList_ofList, lower_lower]

end PlainScan.Text

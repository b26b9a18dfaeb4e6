namespace PlainScan.Text

/-!
# Blank characters

Which characters count as blank, and what remains of a text without the blanks at its ends.

* `isBlank` — the blanks of every script, without the zero-width ones.
* `strip` — a text without blanks at either end.
* `isBlankText` — whether nothing but blanks is there.
-/

/-! ### The characters -/

/-- Blank characters: the ASCII blanks and separators, the next-line control, the no-break space
    and the spaces and separators of the other scripts. -/
def isBlank (c : Char) : Bool :=
  let n := c.toNat
  if n < 0x80 then n == 0x20 || (0x09 ≤ n && n ≤ 0x0D) || (0x1C ≤ n && n ≤ 0x1F)
  else
    n == 0x85 || n == 0xA0 || n == 0x1680 || (0x2000 ≤ n && n ≤ 0x200A)
      || n == 0x2028 || n == 0x2029 || n == 0x202F || n == 0x205F || n == 0x3000

/-! ### The ends of a text -/

/-- The text from its first character that is not blank. -/
def stripLeft (text : List Char) : List Char := text.dropWhile isBlank

/-- The text up to its last character that is not blank. -/
def stripRight (text : List Char) : List Char := (text.reverse.dropWhile isBlank).reverse

/-- The text without the blanks at its ends. -/
def strip (text : List Char) : List Char := stripRight (stripLeft text)

/-- The string without the blanks at its ends. -/
def stripString (text : String) : String := String.ofList (strip text.toList)

/-- Whether every character is blank; so it is for the empty text. -/
def isBlankText (text : List Char) : Bool := text.all isBlank

theorem stripLeft_eq_nil_iff (text : List Char) :
    stripLeft text = [] ↔ isBlankText text = true := by
  induction text with
  | nil => simp [stripLeft, isBlankText]
  | cons c rest ih =>
    by_cases h : isBlank c = true <;> simp_all [stripLeft, isBlankText]

theorem stripRight_of_nil : stripRight [] = [] := rfl

end PlainScan.Text

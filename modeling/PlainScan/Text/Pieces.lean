namespace PlainScan.Text

/-!
# Pieces of a text

* `pieces` — what stands between the occurrences of a separator.
* `startsWith`, `contains` — a text at the front of another one, or anywhere in it.
-/

/-- The pieces between the separators; one more than there are separators. -/
def pieces (separator : Char) : List Char → List (List Char)
  | [] => [[]]
  | c :: rest =>
    if c == separator then [] :: pieces separator rest
    else
      match pieces separator rest with
      | [] => [[c]]
      | piece :: more => (c :: piece) :: more

/-- Whether a text starts with another one. -/
def startsWith (start text : List Char) : Bool := start.isPrefixOf text

/-- Whether a text occurs in another one. -/
def contains (part : List Char) : List Char → Bool
  | [] => part.isEmpty
  | c :: rest => part.isPrefixOf (c :: rest) || contains part rest

theorem pieces_ne_nil (separator : Char) (text : List Char) : pieces separator text ≠ [] := by
  cases text with
  | nil => simp [pieces]
  | cons c rest =>
    unfold pieces
    split
    · simp
    · split <;> simp

end PlainScan.Text

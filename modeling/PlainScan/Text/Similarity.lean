namespace PlainScan.Text

/-!
# Likeness of texts

How much two texts have in common: the longest part that occurs in both, the longest ones to the
left and to the right of it, and so on.

* `matched` — how many characters are in common in this way.
* `closeMatches` — the texts that are most like a given one.
-/

/-! ### Common parts -/

/-- How many characters two texts have in common at their beginnings. -/
def sharedStart : List Char → List Char → Nat
  | c :: rest, d :: others => if c == d then sharedStart rest others + 1 else 0
  | _, _ => 0

/-- A part of two texts: where it begins in each, and its length. -/
structure CommonPart where
  left : Nat := 0
  right : Nat := 0
  size : Nat := 0
  deriving DecidableEq, Repr, Inhabited

/-- The longer of two parts; of equally long ones the first. -/
def CommonPart.longer (a b : CommonPart) : CommonPart := if a.size < b.size then b else a

/-- The longest part that begins here in the left text. -/
def longestAt (left : Nat) (text : List Char) : Nat → List Char → CommonPart → CommonPart
  | _, [], best => best
  | right, d :: others, best =>
    longestAt left text (right + 1) others
      (best.longer ⟨left, right, sharedStart text (d :: others)⟩)

/-- The longest part that begins here or later in the left text. -/
def longestFrom (other : List Char) : Nat → List Char → CommonPart → CommonPart
  | _, [], best => best
  | left, c :: rest, best =>
    longestFrom other (left + 1) rest (longestAt left (c :: rest) 0 other best)

/-- The longest part that two texts have in common; of several the one that comes first in the
    left text, and then in the right one. -/
def longestCommon (text other : List Char) : CommonPart := longestFrom other 0 text {}

/-! ### Likeness -/

/-- How many characters two texts have in common, in their longest common part and on both sides
    of it. -/
def matched (text other : List Char) : Nat :=
  match longestCommon text other with
  | ⟨left, right, size⟩ =>
    if 0 < size ∧ left < text.length then
      size + matched (text.take left) (other.take right)
        + matched (text.drop (left + size)) (other.drop (right + size))
    else 0
termination_by text.length
decreasing_by
  · simp only [List.length_take]; omega
  · simp only [List.length_drop]; omega

/-- How like two texts are: the characters in common, out of so many. -/
structure Likeness where
  common : Nat
  total : Nat
  deriving DecidableEq, Repr, Inhabited

namespace Likeness

/-- The likeness of two texts. -/
def of (text other : List Char) : Likeness := ⟨matched text other, text.length + other.length⟩

/-- Whether three fifths or more is common. -/
def isClose (l : Likeness) : Bool := 3 * l.total ≤ 10 * l.common

/-- Whether one likeness is at least as great as another one. -/
def atLeast (a b : Likeness) : Bool := b.common * a.total ≤ a.common * b.total

end Likeness

/-! ### Close matches -/

/-- Whether a candidate goes in front of another one: the more alike first, then the greater. -/
def isPreferred (a b : Likeness × String) : Bool :=
  if a.1.atLeast b.1 && b.1.atLeast a.1 then decide (b.2 ≤ a.2) else a.1.atLeast b.1

/-- The candidates that are most like a text, at most as many as asked for. -/
def closeMatches (count : Nat) (text : String) (candidates : List String) : List String :=
  let rated := candidates.map fun c => (Likeness.of c.toList text.toList, c)
  (((rated.filter fun r => r.1.isClose).mergeSort isPreferred).take count).map (·.2)

end PlainScan.Text

import PlainScan.Pattern.Build

namespace PlainScan

/-!
# Heading hierarchy

The headings of a page should not jump down by more than one level at a time.

* `headingPattern` — the opening tag of a heading.
* `headings` — the levels and lines of the headings of a text.
* `HeadingSkip` — a heading that lies more than one level below the one before it.
* `headingSkips` — all of them in order.
-/

open Pattern

/-! ### Headings -/

/-- A level of headings. -/
def isLevel (c : Char) : Bool := '1' ≤ c && c ≤ '6'

/-- Anything inside a tag up to its end. -/
def insideTag : Pattern := run (· != '>') 0

/-- The opening tag of a heading. -/
def headingPattern : Pattern :=
  all [literal "<", literalAnyCase "h", one isLevel, wordEdge, insideTag, literal ">"]

/-- A heading: its level and its line. -/
structure Heading where
  level : Nat
  line : Nat
  deriving DecidableEq, Repr, Inhabited

/-- The heading of a matched tag; its level is the third character. -/
def Heading.ofOccurrence (m : Occurrence) : Heading :=
  ⟨(m.start.after.getD 2 '0').toNat - '0'.toNat, m.start.line⟩

/-- The headings of a text in order. -/
def headings (text : List Char) : List Heading :=
  (headingPattern.findAll text).map Heading.ofOccurrence

/-! ### Skips -/

/-- A heading that lies more than one level below the one before it. -/
structure HeadingSkip where
  previous : Nat
  current : Nat
  skipped : Nat
  line : Nat
  deriving DecidableEq, Repr, Inhabited

/-- The skip between two headings in a row, if there is one. -/
def HeadingSkip.between? (a b : Heading) : Option HeadingSkip :=
  if a.level + 1 < b.level then some ⟨a.level, b.level, a.level + 1, b.line⟩ else none

/-- The skips between neighbours. -/
def skipsOf : List Heading → List HeadingSkip
  | a :: b :: rest => (HeadingSkip.between? a b).toList ++ skipsOf (b :: rest)
  | _ => []

/-- The skips in a text in order. -/
def headingSkips (text : List Char) : List HeadingSkip := skipsOf (headings text)

end PlainScan

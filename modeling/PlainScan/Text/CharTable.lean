namespace PlainScan.Text

/-!
# Tables of characters

* `inTable` — membership of a character in a list of inclusive code-point ranges.
-/

/-- Whether the code point of a character lies in one of the ranges. -/
def inTable (ranges : List (Nat × Nat)) (c : Char) : Bool :=
  ranges.any fun r => r.1 ≤ c.toNat && c.toNat ≤ r.2

end PlainScan.Text

import PlainScan.Analysis.Accessibility
import PlainScan.Analysis.Secrets
import PlainScan.Proofs.Finding.Identity
import PlainScan.Proofs.Text.Surrogate

namespace PlainScan

/-!
# Identities that can be hashed

What is hashed for a finding has to be encoded first.  Numbers, and the words that the analyzers
have of their own, never stand in the way of that.

* `isIdentifiable_eq_all` — a finding can be identified if each of its fields can be encoded.
* `Text.isEncodable_intText` — numbers can be.
* `Secrets.isIdentifiable_identity`, `Accessibility.isIdentifiable_identity` — where files are
  searched, only the path decides.
-/

/-! ### Fields -/

/-- **Fields.** An identity text can be encoded exactly if each of its fields can. -/
theorem isIdentifiable_eq_all (parts : List Json) :
    isIdentifiable parts = parts.all fun part => Text.isEncodable (identityPart part) := by
  rw [isIdentifiable, identityText, Text.isEncodable_intercalate (by decide), List.all_map]
  rfl

/-- No digit stands for half of a surrogate pair. -/
theorem Text.isLone_of_isDigit {c : Char} (h : c.isDigit = true) : Text.isLone c = false := by
  have hlast : c.toNat ≤ 57 := (Char.isDigit_iff_toNat.mp h).2
  have hnot : ¬ Text.isLone c = true := by
    rw [Text.isLone_iff, Text.loneShift]
    omega
  simpa using hnot

/-- A number can be encoded. -/
theorem Text.isEncodable_intText (n : Int) : Text.isEncodable (intText n) = true := by
  rw [Text.isEncodable, intText_eq, List.all_append, Bool.and_eq_true]
  constructor
  · split <;> rfl
  · refine List.all_eq_true.mpr fun c hc => ?_
    rw [Text.isLone_of_isDigit (isDigit_of_mem_natText hc)]
    rfl

/-- So can a line, also where it is missing. -/
theorem Text.isEncodable_line (line : Option Int) :
    Text.isEncodable (identityPart (.ofOption (line.map .int))) = true := by
  cases line with
  | none => rfl
  | some n => exact Text.isEncodable_intText n

/-! ### Files that are searched -/

/-- A finding about a line of a file can be identified exactly if its path can be encoded, provided
    that its panel, its tool and its rule can. -/
theorem isIdentifiable_place {panel tool rule : String} (path : String) (line : Int)
    (hwords : ([panel, tool, rule].all Text.isEncodable) = true) :
    isIdentifiable [.str panel, .str tool, .str rule, .str path, .int line]
      = Text.isEncodable path := by
  have hline : Text.isEncodable (identityPart (.int line)) = true := Text.isEncodable_intText line
  simp only [List.all_cons, List.all_nil, Bool.and_true, Bool.and_eq_true] at hwords
  simp only [isIdentifiable_eq_all, List.all_cons, List.all_nil, identityPart_str, hline, hwords,
    Bool.and_true, Bool.true_and]

/-- **Secrets.** Only the path of the file decides whether a secret can be identified. -/
theorem Secrets.isIdentifiable_identity {p : SecretPattern} (hp : p ∈ patterns) (path : FilePath)
    (line : Nat) : isIdentifiable (identity path line p) = Text.isEncodable path.text := by
  refine isIdentifiable_place path.text line ?_
  have hall : (patterns.all fun p => [info.panel.name, info.name, p.id].all Text.isEncodable)
      = true := by decide +kernel
  exact List.all_eq_true.mp hall p hp

/-- **Pages.** Only the path of the page decides whether a fault in it can be identified. -/
theorem Accessibility.isIdentifiable_identity {check : String}
    (hcheck : check ∈ headingCheck :: checks.map Check.id) (path : String) (line : Nat) :
    isIdentifiable (identity check path line) = Text.isEncodable path := by
  refine isIdentifiable_place path line ?_
  have hall : ((headingCheck :: checks.map Check.id).all fun check =>
      [info.panel.name, info.name, check].all Text.isEncodable) = true := by decide +kernel
  exact List.all_eq_true.mp hall check hcheck

end PlainScan

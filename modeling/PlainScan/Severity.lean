namespace PlainScan

/-!
# Severity and importance

* `Severity` — how grave the tool holds a finding to be, ordered by `Severity.rank`.
* `Importance` — how the report presents it; `Severity.importance` decides, and nothing else.
-/

/-- How grave a finding is. -/
inductive Severity where
  | critical
  | high
  | medium
  | low
  deriving DecidableEq, Repr, Inhabited

/-- How the report presents a finding. -/
inductive Importance where
  | important
  | explore
  | note
  | fyi
  deriving DecidableEq, Repr, Inhabited

namespace Severity

/-- The word for a severity. -/
def name : Severity → String
  | critical => "critical"
  | high => "high"
  | medium => "medium"
  | low => "low"

/-- All severities, the gravest first. -/
def all : List Severity := [critical, high, medium, low]

/-- The severity that a word stands for. -/
def ofName? (text : String) : Option Severity := all.find? fun s => s.name == text

/-- The place in the order, the gravest highest. -/
def rank : Severity → Nat
  | critical => 3
  | high => 2
  | medium => 1
  | low => 0

instance : LE Severity := ⟨fun a b => a.rank ≤ b.rank⟩
instance : LT Severity := ⟨fun a b => a.rank < b.rank⟩
instance (a b : Severity) : Decidable (a ≤ b) := inferInstanceAs (Decidable (a.rank ≤ b.rank))
instance (a b : Severity) : Decidable (a < b) := inferInstanceAs (Decidable (a.rank < b.rank))

/-- The lesser of two severities. -/
def atMost (a b : Severity) : Severity := if b < a then b else a

/-- The greater of two severities. -/
def atLeast (a b : Severity) : Severity := if a < b then b else a

/-- How findings of a severity are presented. -/
def importance : Severity → Importance
  | critical => .important
  | high => .explore
  | medium => .note
  | low => .fyi

theorem rank_injective {a b : Severity} (h : a.rank = b.rank) : a = b := by
  cases a <;> cases b <;> first | rfl | cases h

end Severity

namespace Importance

/-- The word for an importance. -/
def name : Importance → String
  | important => "important"
  | explore => "explore"
  | note => "note"
  | fyi => "fyi"

/-- All importances, the weightiest first. -/
def all : List Importance := [important, explore, note, fyi]

/-- The importance that a word stands for. -/
def ofName? (text : String) : Option Importance := all.find? fun i => i.name == text

end Importance

end PlainScan

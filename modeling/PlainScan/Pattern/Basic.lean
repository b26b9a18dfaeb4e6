import PlainScan.Text.Word

namespace PlainScan

/-!
# Patterns

Patterns that are looked for in texts, with the order of preference that a greedy search has.

* `Cursor` — a place in a text: what stands before it, nearest first, and what follows.
* `Pattern` — classes of characters, runs of them, sequence, choice, repetition, an optional
  part, the absence of a match ahead and the edge of a word.
* `Pattern.ends` — the places where a match from a given place can end, the preferred one first.
* `Pattern.find?` — the first match from a place on; `Pattern.findAll` — all of them from left to
  right, without overlap.
-/

/-! ### Places -/

/-- A place in a text. -/
structure Cursor where
  before : List Char
  after : List Char
  deriving DecidableEq, Repr, Inhabited

namespace Cursor

/-- The start of a text. -/
def start (text : List Char) : Cursor := ⟨[], text⟩

/-- How many characters stand before the place. -/
def column (c : Cursor) : Nat := c.before.length

/-- The number of the line at the place; lines end at line feeds and count from one. -/
def line (c : Cursor) : Nat := c.before.count '\n' + 1

/-- The next place, if the text goes on. -/
def next? (c : Cursor) : Option Cursor :=
  match c.after with
  | [] => none
  | x :: rest => some ⟨x :: c.before, rest⟩

/-- Whether exactly one of the neighbours belongs to a word. -/
def isWordEdge (c : Cursor) : Bool := Text.atWordEdge c.before.head? c.after.head?

/-- The text between two places, the second one further on. -/
def textTo (c d : Cursor) : List Char := c.after.take (c.after.length - d.after.length)

end Cursor

/-! ### Patterns -/

/-- What to look for in a text. -/
inductive Pattern where
  | nothing
  | one (allowed : Char → Bool)
  | run (allowed : Char → Bool) (least : Nat)
  | seq (first second : Pattern)
  | alt (first second : Pattern)
  | star (body : Pattern)
  | opt (body : Pattern)
  | absent (body : Pattern)
  | wordEdge
  deriving Inhabited

namespace Pattern

/-! ### Matching -/

/-- The places after a run of allowed characters, the longest run first.  Of the run, `least`
    characters are still owed; `shorter` holds the places already reached. -/
def runEnds (allowed : Char → Bool) :
    Nat → List Char → List Char → List Cursor → List Cursor
  | least, before, [], shorter => if least = 0 then ⟨before, []⟩ :: shorter else shorter
  | least, before, c :: rest, shorter =>
    let reached := if least = 0 then ⟨before, c :: rest⟩ :: shorter else shorter
    if allowed c then runEnds allowed (least - 1) (c :: before) rest reached else reached

/-- The places after any number of rounds, more rounds first; a round that does not move on
    ends the repetition. -/
def starEnds (round : Cursor → List Cursor) : Nat → Cursor → List Cursor
  | 0, c => [c]
  | rounds + 1, c =>
    (((round c).filter fun d => d.after.length < c.after.length).flatMap
      (starEnds round rounds)) ++ [c]

/-- The places where a match from a given place can end, the preferred one first. -/
def ends : Pattern → Cursor → List Cursor
  | nothing, c => [c]
  | one allowed, c =>
    match c.after with
    | [] => []
    | x :: rest => if allowed x then [⟨x :: c.before, rest⟩] else []
  | run allowed least, c => runEnds allowed least c.before c.after []
  | seq first second, c => (ends first c).flatMap (ends second)
  | alt first second, c => ends first c ++ ends second c
  | star body, c => starEnds (ends body) c.after.length c
  | opt body, c => ends body c ++ [c]
  | absent body, c => if (ends body c).isEmpty then [c] else []
  | wordEdge, c => if c.isWordEdge then [c] else []

/-! ### Searching -/

/-- Where a match starts and where it ends. -/
structure Occurrence where
  start : Cursor
  stop : Cursor
  deriving Repr, Inhabited

/-- The matched text. -/
def Occurrence.text (m : Occurrence) : List Char := m.start.textTo m.stop

/-- The first match from a place on, given what stands before the place and after it. -/
def findFrom (p : Pattern) (before : List Char) : List Char → Option Occurrence
  | [] => (p.ends ⟨before, []⟩).head?.map fun stop => ⟨⟨before, []⟩, stop⟩
  | c :: rest =>
    match p.ends ⟨before, c :: rest⟩ with
    | stop :: _ => some ⟨⟨before, c :: rest⟩, stop⟩
    | [] => findFrom p (c :: before) rest

/-- The first match in a text. -/
def find? (p : Pattern) (text : List Char) : Option Occurrence := findFrom p [] text

/-- All matches from a place on; after a match the search goes on where it ended. -/
def findAllFrom (p : Pattern) : Nat → Cursor → List Occurrence
  | 0, _ => []
  | fuel + 1, c =>
    match findFrom p c.before c.after with
    | none => []
    | some m =>
      let resume := if m.stop.after.length < m.start.after.length then some m.stop
        else m.stop.next?
      match resume with
      | none => [m]
      | some d => m :: findAllFrom p fuel d

/-- All matches in a text, from left to right and without overlap. -/
def findAll (p : Pattern) (text : List Char) : List Occurrence :=
  findAllFrom p (text.length + 1) (Cursor.start text)

theorem mem_ends_seq (p q : Pattern) (c e : Cursor) :
    e ∈ (seq p q).ends c ↔ ∃ d ∈ p.ends c, e ∈ q.ends d := by
  simp [ends]

theorem mem_ends_alt (p q : Pattern) (c e : Cursor) :
    e ∈ (alt p q).ends c ↔ e ∈ p.ends c ∨ e ∈ q.ends c := by
  simp [ends]

end Pattern

end PlainScan

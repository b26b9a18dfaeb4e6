import PlainScan.Text.Blank
import PlainScan.Text.Clusters
import PlainScan.Text.Pieces

namespace PlainScan.Console

/-!
# Lines of a limited width

* `Overflow` — what happens to a word wider than a line.
* `cleanText` — a text without the characters that ring bells or move the cursor.
* `expandTabs` — tabs as blanks up to the next multiple of eight cells.
* `wrap` — the lines that a line of any length becomes; they break between words.
* `padded` — a line with blanks up to a width.
-/

open PlainScan.Text (Cluster cells clusters isBlank pieces)

/-- What happens to a word wider than a line: it is cut into pieces, or its end is replaced by a
    mark. -/
inductive Overflow where
  | fold
  | ellipsis
  deriving DecidableEq, Repr, Inhabited

/-! ### Characters -/

/-- The text without bell, backspace, vertical tab, form feed and carriage return. -/
def cleanText (text : List Char) : List Char :=
  text.filter fun c => !(c == '\x07' || c == '\x08' || (0x0B ≤ c.toNat && c.toNat ≤ 0x0D))

/-- The distance between tab stops in cells. -/
def tabStop : Nat := 8

/-- The cells up to the next tab stop; none at a stop. -/
def untilStop (position : Nat) : Nat := (tabStop - position % tabStop) % tabStop

/-- The parts between tabs, from a number of cells on.  A tab is a blank, and as many more as lead
    to the next stop. -/
def expandParts (position : Nat) : List (List Char) → List Char
  | [] => []
  | [last] => last
  | part :: rest =>
    let reached := position + cells (part ++ [' '])
    part ++ [' '] ++ List.replicate (untilStop reached) ' '
      ++ expandParts (reached + untilStop reached) rest

/-- The text with blanks for tabs. -/
def expandTabs (text : List Char) : List Char := expandParts 0 (pieces '\t' text)

/-! ### Words -/

/-- The words of a text that goes on from a reversed beginning. -/
def wordsFrom (current : List Char) (hasWord : Bool) : List Char → List (List Char)
  | [] => [current.reverse]
  | c :: rest =>
    if isBlank c then wordsFrom (c :: current) hasWord rest
    else if hasWord && current.head?.any isBlank then
      current.reverse :: wordsFrom [c] true rest
    else wordsFrom (c :: current) true rest

/-- A text cut before each word but the first; every word carries the blanks after it. -/
def words (text : List Char) : List (List Char) := wordsFrom [] false text

/-! ### Cutting -/

/-- The pieces of the rest of a word, after one that has a number of cells. -/
def chopFrom (width : Nat) (current : List Char) (taken : Nat) : List Cluster → List (List Char)
  | [] => [current]
  | c :: rest =>
    if taken + c.cells ≤ width then chopFrom width (current ++ c.text) (taken + c.cells) rest
    else current :: chopFrom width c.text c.cells rest

/-- A word cut into pieces of at most a number of cells.  The first piece is empty where not even
    one cluster fits. -/
def chop (width : Nat) (word : List Char) : List (List Char) := chopFrom width [] 0 (clusters word)

/-- As many clusters as fit into a number of cells; a wide one that would be cut in half is
    replaced by a blank. -/
def cropClusters : Nat → List Cluster → List Char
  | _, [] => []
  | width, c :: rest =>
    if c.cells ≤ width then c.text ++ cropClusters (width - c.cells) rest
    else List.replicate width ' '

/-- As much of a text as fits into a number of cells. -/
def crop (width : Nat) (text : List Char) : List Char := cropClusters width (clusters text)

/-! ### Breaking -/

/-- Lines that are complete, in reverse, and the one that grows, with its cells; before the first
    character no line can end. -/
structure Filling where
  complete : List (List Char) := []
  current : List Char := []
  offset : Nat := 0
  started : Bool := false
  deriving Inhabited

/-- Ends the growing line and begins another one. -/
def Filling.next (f : Filling) (line : List Char) : Filling :=
  { complete := if f.started then f.current :: f.complete else f.complete
    current := line
    offset := cells line
    started := f.started || !line.isEmpty }

/-- Adds a word to the growing line, or to the next one where it does not fit. -/
def Filling.add (width : Nat) (overflow : Overflow) (f : Filling) (word : List Char) : Filling :=
  let solid := cells (Text.stripRight word)
  if f.offset + solid ≤ width then
    { f with current := f.current ++ word, offset := f.offset + cells word, started := true }
  else if solid ≤ width || overflow == .ellipsis then f.next word
  else (chop width word).foldl Filling.next f

/-- The lines of a text before they are shortened. -/
def fill (width : Nat) (overflow : Overflow) (text : List Char) : List (List Char) :=
  let f := (words text).foldl (Filling.add width overflow) {}
  (f.current :: f.complete).reverse

/-! ### Shortening -/

/-- Takes away blanks from the end, as many as there are characters too much. -/
def trimEnd (width : Nat) (line : List Char) : List Char :=
  let blanks := (line.reverse.takeWhile isBlank).length
  line.take (line.length - min blanks (line.length - width))

/-- Shortens a line that is still too wide. -/
def shorten (width : Nat) (overflow : Overflow) (line : List Char) : List Char :=
  if cells line ≤ width then line
  else
    match overflow with
    | .fold => crop width line
    | .ellipsis => crop (width - 1) line ++ ['…']

/-- The lines that a line of any length becomes. -/
def wrap (width : Nat) (overflow : Overflow) (text : List Char) : List (List Char) :=
  (fill width overflow (expandTabs text)).map fun line =>
    shorten width overflow (trimEnd width line)

/-- The lines that a text becomes, each of its own lines by itself. -/
def wrapText (width : Nat) (overflow : Overflow) (text : List Char) : List (List Char) :=
  (pieces '\n' (cleanText text)).flatMap (wrap width overflow)

/-- A line with blanks up to a width. -/
def padded (width : Nat) (line : List Char) : List Char :=
  line ++ List.replicate (width - cells line) ' '

theorem chopFrom_flatten (width : Nat) (current : List Char) (taken : Nat)
    (word : List Cluster) :
    (chopFrom width current taken word).flatten = current ++ word.flatMap Cluster.text := by
  fun_induction chopFrom width current taken word <;> simp_all [List.append_assoc]

/-- Nothing is lost when a word is cut into pieces. -/
theorem chop_flatten (width : Nat) (word : List Char) : (chop width word).flatten = word := by
  simp [chop, chopFrom_flatten, Text.clusters_text]

end PlainScan.Console

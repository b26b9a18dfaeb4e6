import PlainScan.Console.Markup
import PlainScan.Console.Wrap

namespace PlainScan.Console

/-!
# Tables

* `Column` — a heading and the number of cells for it.
* `Table` — a title, the columns and the rows; `Table.lines` draws it.
* `printLines`, `printMarked?` — lines, and a text with style marks that is broken into lines, as
  they are printed.
-/

/-! ### Printing -/

/-- Lines, each with its end. -/
def printLines (lines : List (List Char)) : List Char :=
  lines.flatMap fun line => line ++ ['\n']

/-- A text as it is printed on a console of some width; where there is none, nothing is. -/
def printText (width : Nat) (text : List Char) : List Char :=
  if width = 0 then [] else printLines (wrapText width .fold text)

/-- A text with style marks as it is printed. -/
def printMarked? (width : Nat) (marked : List Char) : Option (List Char) :=
  (plainText? marked).map (printText width)

/-! ### Tables -/

/-- The heading of a column and the cells that its content may take. -/
structure Column where
  heading : List Char
  width : Nat
  deriving Repr, Inhabited

/-- A table: its title, its columns, and its rows of texts, all without style marks. -/
structure Table where
  title : List Char
  columns : List Column
  rows : List (List (List Char))
  deriving Repr, Inhabited

/-- The characters of a horizontal rule: its left end, its line, its crossings, its right end. -/
structure Rule where
  left : Char
  line : Char
  cross : Char
  right : Char
  deriving Repr, Inhabited

namespace Table

/-- The rule above the headings. -/
def topRule : Rule := ⟨'┏', '━', '┳', '┓'⟩

/-- The rule below the headings. -/
def headRule : Rule := ⟨'┡', '━', '╇', '┩'⟩

/-- The rule between rows. -/
def rowRule : Rule := ⟨'├', '─', '┼', '┤'⟩

/-- The rule below the last row. -/
def bottomRule : Rule := ⟨'└', '─', '┴', '┘'⟩

/-- The upright line between headings. -/
def headBar : Char := '┃'

/-- The upright line between the cells of a row. -/
def rowBar : Char := '│'

/-- The cells that the table takes: every column has a blank on both sides, and upright lines
    stand between and around the columns. -/
def width (t : Table) : Nat := t.columns.foldl (fun n c => n + c.width + 3) 1

/-- A horizontal rule. -/
def ruleLine (t : Table) (rule : Rule) : List Char :=
  let spans := t.columns.map fun c => List.replicate (c.width + 2) rule.line
  [rule.left] ++ [rule.cross].intercalate spans ++ [rule.right]

/-- A line of cells between upright lines. -/
def cellLine (bar : Char) (cells : List (List Char)) : List Char :=
  [bar] ++ cells.flatMap fun cell => [' '] ++ cell ++ [' ', bar]

/-- The lines of a cell. -/
def cellLines (column : Column) (text : List Char) : List (List Char) :=
  (wrapText column.width .ellipsis text).map (padded column.width)

/-- The lines of a row; cells with fewer lines are filled up. -/
def rowLines (t : Table) (bar : Char) (texts : List (List Char)) : List (List Char) :=
  let cells := (t.columns.zip texts).map fun p => (p.1, cellLines p.1 p.2)
  let height := cells.foldl (fun n cell => max n cell.2.length) 0
  (List.range height).map fun i =>
    cellLine bar (cells.map fun cell => (cell.2[i]?).getD (padded cell.1.width []))

/-- The title, over the whole width. -/
def titleLines (t : Table) : List (List Char) :=
  (wrapText t.width .fold t.title).map (padded t.width)

/-- The rows with rules between them. -/
def bodyLines (t : Table) : List (List Char) → List (List (List Char)) → List (List Char)
  | _, [] => []
  | between, row :: rest =>
    between ++ t.rowLines rowBar row ++ bodyLines t [t.ruleLine rowRule] rest

/-- The lines of the table. -/
def lines (t : Table) : List (List Char) :=
  t.titleLines ++ [t.ruleLine topRule] ++ t.rowLines headBar (t.columns.map (·.heading))
    ++ [t.ruleLine headRule] ++ t.bodyLines [] t.rows ++ [t.ruleLine bottomRule]

end Table

end PlainScan.Console

namespace PlainScan.Text

/-!
# Lines

Two rules divide a text into lines.  A file that is read turns every carriage return, alone or
before a line feed, into a line feed.  A reader that goes through the lines of a text also ends
a line at the vertical tab, the form feed, the separators of the control range, the next-line
control and the line and paragraph separators.

* `normaliseNewlines` — the first rule.
* `splitLines` — the second rule; a separator at the end opens no further line.
* `lastLine` — the last line, if there is any.
-/

/-! ### Line feeds -/

/-- Every carriage return, with the line feed that may follow it, becomes one line feed. -/
def normaliseNewlines : List Char → List Char
  | [] => []
  | '\r' :: '\n' :: rest => '\n' :: normaliseNewlines rest
  | c :: rest => (if c == '\r' then '\n' else c) :: normaliseNewlines rest

/-! ### All separators -/

/-- The characters that end a line. -/
def isLineEnd (c : Char) : Bool :=
  let n := c.toNat
  (0x0A ≤ n && n ≤ 0x0D) || (0x1C ≤ n && n ≤ 0x1E) || n == 0x85 || n == 0x2028 || n == 0x2029

/-- Splits the rest of a text, given the reversed start of the current line. -/
def splitLinesFrom (current : List Char) : List Char → List (List Char)
  | [] => if current.isEmpty then [] else [current.reverse]
  | '\r' :: '\n' :: rest => current.reverse :: splitLinesFrom [] rest
  | c :: rest =>
    if isLineEnd c then current.reverse :: splitLinesFrom [] rest
    else splitLinesFrom (c :: current) rest

/-- The lines of a text, without their separators. -/
def splitLines (text : List Char) : List (List Char) := splitLinesFrom [] text

/-- The last line of a text. -/
def lastLine (text : List Char) : Option (List Char) := (splitLines text).getLast?

end PlainScan.Text

namespace PlainScan.Text

/-!
# Lone surrogates

A text may hold half of a surrogate pair without the other half: an escape in a JSON text stands for
it, or a byte of a file name that is not UTF-8.  No character of Lean stands for such a half, so
code points to which no character is assigned take the place of the halves, one for each and in
their order.

* `lone` — what takes the place of a half; `isLone` — whether a character does so.
* `codePoint`, `codePoints` — the code points that are meant; `isBefore` — texts in their order.
* `isEncodable` — whether a text can be encoded: one that holds such a half cannot.
* `isEscapedByte`, `isNameable` — what halves of pairs do in file names; `nameSize` counts bytes.
-/

/-- How far behind a half the code point lies that takes its place. -/
def loneShift : Nat := 0xD0000

/-- What takes the place of half of a pair. -/
def lone (half : Nat) : Char := Char.ofNat (half + loneShift)

/-- Whether a character stands for half of a pair. -/
def isLone (c : Char) : Bool := 0xD800 + loneShift ≤ c.toNat && c.toNat ≤ 0xDFFF + loneShift

/-- The code point that a character stands for. -/
def codePoint (c : Char) : Nat := if isLone c then c.toNat - loneShift else c.toNat

/-- The code points of a text in order. -/
def codePoints (text : String) : List Nat := text.toList.map codePoint

/-- Whether a text stands before another one in the order of the code points. -/
def isBefore (text other : String) : Bool := (codePoints text).lex (codePoints other)

/-- Whether a text can be encoded. -/
def isEncodable (text : String) : Bool := text.toList.all fun c => !isLone c

/-! ### File names -/

/-- Whether a character stands for a byte of a file name that is no part of a character; the other
    halves of pairs stand for none. -/
def isEscapedByte (c : Char) : Bool := isLone c && 0xDC80 ≤ codePoint c && codePoint c ≤ 0xDCFF

/-- Whether a character can be part of a file name: any but the NUL and the halves of pairs that
    stand for no byte. -/
def isNameable (c : Char) : Bool := c != '\x00' && (!isLone c || isEscapedByte c)

/-- The number of bytes of a file name or of a path. -/
def nameSize (name : String) : Nat :=
  name.toList.foldl (fun n c => n + if isEscapedByte c then 1 else c.utf8Size) 0

end PlainScan.Text

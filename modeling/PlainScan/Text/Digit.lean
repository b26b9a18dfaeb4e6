import PlainScan.Text.Blank

namespace PlainScan.Text

/-!
# Decimal digits

The digits of a script follow one another from its zero on.

* `zeros` — the zeros outside of ASCII.
* `decimalDigit?` — the value of a decimal digit of any script.
* `plainNumeral` — a text in which digits and blanks of any script are those of ASCII.
-/

/-- The zeros of the scripts other than that of ASCII. -/
def zeros : List Nat :=
  [0x660, 0x6F0, 0x7C0, 0x966, 0x9E6, 0xA66, 0xAE6, 0xB66, 0xBE6, 0xC66, 0xCE6, 0xD66, 0xDE6,
    0xE50, 0xED0, 0xF20, 0x1040, 0x1090, 0x17E0, 0x1810, 0x1946, 0x19D0, 0x1A80, 0x1A90, 0x1B50,
    0x1BB0, 0x1C40, 0x1C50, 0xA620, 0xA8D0, 0xA900, 0xA9D0, 0xA9F0, 0xAA50, 0xABF0, 0xFF10,
    0x104A0, 0x10D30, 0x11066, 0x110F0, 0x11136, 0x111D0, 0x112F0, 0x11450, 0x114D0, 0x11650,
    0x116C0, 0x11730, 0x118E0, 0x11950, 0x11C50, 0x11D50, 0x11DA0, 0x11F50, 0x16A60, 0x16AC0,
    0x16B50, 0x1D7CE, 0x1D7D8, 0x1D7E2, 0x1D7EC, 0x1D7F6, 0x1E140, 0x1E2F0, 0x1E4F0, 0x1E950,
    0x1FBF0]

/-- The value of a decimal digit of any script. -/
def decimalDigit? (c : Char) : Option Nat :=
  let n := c.toNat
  if n < 0x80 then if c.isDigit then some (n - 0x30) else none
  else (zeros.find? fun first => first ≤ n && n < first + 10).map fun first => n - first

/-- A character for the digit or the blank outside of ASCII that it stands for; what is neither
    becomes a question mark. -/
def plainNumeralChar (c : Char) : Char :=
  if c.toNat < 0x80 then c
  else if isBlank c then ' '
  else
    match decimalDigit? c with
    | some digit => Char.ofNat (0x30 + digit)
    | none => '?'

/-- The text in which digits and blanks of any script are those of ASCII. -/
def plainNumeral (text : List Char) : List Char := text.map plainNumeralChar

end PlainScan.Text

import PlainScan.Number.Binary64

namespace PlainScan

/-!
# Decimal text of numbers

Three ways to write a binary number in decimal digits, all computed in exact integers.

* `shortestDigits` — the fewest digits that read back as the number, and of those the nearest.
* `roundedDigits` — a fixed count of significant digits.
* `Binary64.text` — the shortest digits; positional below ten to the sixteenth.
* `Binary64.generalText` — six significant digits without trailing zeros.
* `fixedText` — a fixed count of places after the point.
-/

/-! ### Integers -/

/-- The decimal digits of a natural number. -/
def natText (n : Nat) : String := String.ofList (Nat.toDigits 10 n)

/-- The decimal digits of an integer, with a minus sign where it is negative. -/
def intText (n : Int) : String :=
  if n < 0 then "-" ++ natText n.natAbs else natText n.natAbs

/-- A natural number in at least `width` digits. -/
def padZeros (width n : Nat) : String :=
  let digits := Nat.toDigits 10 n
  String.ofList (List.replicate (width - digits.length) '0' ++ digits)

/-! ### Powers of ten -/

/-- A positive decimal: `digits` times ten to the `exponent`. -/
structure Decimal where
  digits : Nat
  exponent : Int
  deriving DecidableEq, Repr

/-- The quotient of a magnitude in units by ten to the `power`, as numerator and denominator. -/
def overPowerOfTen (units : Nat) (power : Int) : Nat × Nat :=
  if 0 ≤ power then (units, Binary64.unitsOfOne * Nat.pow 10 power.toNat)
  else (units * Nat.pow 10 (-power).toNat, Binary64.unitsOfOne)

/-- Whether a magnitude in units reaches ten to the `power`. -/
def reachesPowerOfTen (units : Nat) (power : Int) : Bool :=
  let (num, den) := overPowerOfTen units power
  den ≤ num

/-- The power of ten of the leading digit of a positive magnitude.  The estimate from the binary
    logarithm is off by one at most. -/
def leadingPower (units : Nat) : Int :=
  let binary : Int := (Nat.log2 units : Int) - Binary64.unitBits
  let estimate := Int.fdiv (binary * 30103) 100000
  if reachesPowerOfTen units (estimate + 1) then estimate + 1
  else if reachesPowerOfTen units estimate then estimate
  else estimate - 1

/-! ### Shortest digits -/

/-- Whether a candidate `digits`, on the grid where `units` is `num / den`, reads back as
    `units`: it lies within half a spacing, the ends included for an even number.  Below a power
    of two the spacing halves. -/
def readsBack (units num den digits : Nat) : Bool :=
  let bits := Binary64.spacingBits units
  let even := (units / Nat.pow 2 bits) % 2 == 0
  let atPower := bits > 0 && units == Nat.pow 2 (Binary64.fractionBits + bits)
  -- Distances are compared in quarters of the spacing, scaled like `num`.
  let above := 4 * units * (digits * den - num)
  let below := 4 * units * (num - digits * den)
  let upper := 2 * Nat.pow 2 bits * num
  let lower := if atPower then Nat.pow 2 bits * num else upper
  if even then above ≤ upper && below ≤ lower else above < upper && below < lower

/-- The nearer neighbour on the grid that reads back, if one does. -/
def nearestOnGrid? (units num den : Nat) : Option Nat :=
  let low := num / den
  let lowFits := 0 < low && readsBack units num den low
  let highFits := readsBack units num den (low + 1)
  if lowFits && highFits then
    let rest := num % den
    if 2 * rest < den || (2 * rest == den && low % 2 == 0) then some low else some (low + 1)
  else if lowFits then some low
  else if highFits then some (low + 1)
  else none

/-- Searches the grids of `count`, `count + 1`, … digits; seventeen digits always suffice. -/
def shortestFrom (units : Nat) (power : Int) (count : Nat) : Nat → Decimal
  | 0 =>
    let exponent := power - 16
    let (num, den) := overPowerOfTen units exponent
    ⟨Binary64.roundQuotient num den, exponent⟩
  | tries + 1 =>
    let exponent := power - (count : Int) + 1
    let (num, den) := overPowerOfTen units exponent
    match nearestOnGrid? units num den with
    | some digits => ⟨digits, exponent⟩
    | none => shortestFrom units power (count + 1) tries

/-- The fewest digits that read back as a positive magnitude, and of those the nearest. -/
def shortestDigits (units : Nat) : Decimal := shortestFrom units (leadingPower units) 1 17

/-- A positive magnitude rounded to `count` significant digits; an exact half goes to even. -/
def roundedDigits (units count : Nat) : Decimal :=
  let exponent := leadingPower units - (count : Int) + 1
  let (num, den) := overPowerOfTen units exponent
  ⟨Binary64.roundQuotient num den, exponent⟩

/-! ### Layout -/

/-- The digits without the zeros at their end. -/
def dropEndZeros (digits : List Char) : List Char :=
  (digits.reverse.dropWhile (· == '0')).reverse

/-- Digits with the decimal point after the first `point` of them; zeros fill up on either
    side, and nothing follows the point if no digit is left. -/
def positional (digits : List Char) (point : Int) : List Char × List Char :=
  if point ≤ 0 then (['0'], List.replicate (-point).toNat '0' ++ digits)
  else
    let p := point.toNat
    (digits.take p ++ List.replicate (p - digits.length) '0', digits.drop p)

/-- Scientific notation; the exponent has a sign and at least two digits. -/
def scientific (digits : List Char) (exponent : Int) : String :=
  let mantissa := match digits with
    | [] => ['0']
    | [d] => [d]
    | d :: rest => d :: '.' :: rest
  let sign := if exponent < 0 then "-" else "+"
  String.ofList mantissa ++ "e" ++ sign ++ padZeros 2 exponent.natAbs

/-- How a decimal layout is chosen. -/
structure NumberStyle where
  /-- The least power of ten of the leading digit that is written positionally. -/
  lowestPower : Int
  /-- The first power of ten of the leading digit that is written scientifically. -/
  highestPower : Int
  /-- Whether a whole number is written with a point and a zero. -/
  keepsPoint : Bool

/-- The shortest form: positional from a ten-thousandth to below ten to the sixteenth. -/
def shortestStyle : NumberStyle := ⟨-4, 16, true⟩

/-- The six-digit form: positional from a ten-thousandth to below a million. -/
def generalStyle : NumberStyle := ⟨-4, 6, false⟩

/-- Lays out a positive decimal. -/
def layOut (style : NumberStyle) (d : Decimal) : String :=
  let all := Nat.toDigits 10 d.digits
  let power := d.exponent + all.length - 1
  let digits := dropEndZeros all
  if style.lowestPower ≤ power && power < style.highestPower then
    let (whole, fraction) := positional digits (power + 1)
    if fraction.isEmpty then
      String.ofList whole ++ (if style.keepsPoint then ".0" else "")
    else String.ofList (whole ++ '.' :: fraction)
  else scientific digits power

/-- A sign in front of a text. -/
def signed (negative : Bool) (text : String) : String := if negative then "-" ++ text else text

/-- The shortest text that reads back as the number. -/
def Binary64.text : Binary64 → String
  | .nan => "nan"
  | .infinite negative => signed negative "inf"
  | .finite negative 0 => signed negative "0.0"
  | .finite negative units => signed negative (layOut shortestStyle (shortestDigits units))

/-- The number in six significant digits. -/
def Binary64.generalText : Binary64 → String
  | .nan => "nan"
  | .infinite negative => signed negative "inf"
  | .finite negative 0 => signed negative "0"
  | .finite negative units => signed negative (layOut generalStyle (roundedDigits units 6))

/-- The number with a fixed count of places; an exact half goes to the even neighbour. -/
def Binary64.fixedText (places : Nat) : Binary64 → String
  | .nan => "nan"
  | .infinite negative => signed negative "inf"
  | .finite negative units =>
    let scaled := Binary64.roundQuotient (units * Nat.pow 10 places) Binary64.unitsOfOne
    let whole := natText (scaled / Nat.pow 10 places)
    let fraction := if places = 0 then "" else "." ++ padZeros places (scaled % Nat.pow 10 places)
    signed negative (whole ++ fraction)

end PlainScan

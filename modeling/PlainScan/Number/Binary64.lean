namespace PlainScan

/-!
# Binary floating-point numbers

The numbers of the 64-bit binary format, kept exactly.  Every finite one is a whole number of
the smallest positive one, its *units*, so order and arithmetic on them are those of integers.

* `Binary64` — not a number, the infinities, and a sign with a count of units.
* `Binary64.ofRatio` — the nearest number to a quotient; a tie goes to the even neighbour.
* `Binary64.ofDecimal`, `Binary64.ofInt` — the nearest number to a decimal or an integer.
* `Binary64.add`, `Binary64.mul` — the nearest numbers to the sum and the product.
* `Binary64.lt`, `Binary64.le` — the order; nothing is comparable with what is not a number.
-/

/-- A number of the 64-bit binary format. -/
inductive Binary64 where
  | nan
  | infinite (negative : Bool)
  | finite (negative : Bool) (units : Nat)
  deriving DecidableEq, Inhabited, Repr

namespace Binary64

/-! ### The format -/

/-- One is this many doublings away from the unit. -/
def unitBits : Nat := 1074

/-- The number one in units. -/
def unitsOfOne : Nat := Nat.pow 2 unitBits

/-- A number keeps this many bits after its leading one. -/
def fractionBits : Nat := 52

/-- From this many units on a magnitude counts as infinite. -/
def overflowUnits : Nat := Nat.pow 2 (1024 + unitBits)

/-- How many doublings the spacing of the format has undergone at a magnitude. -/
def spacingBits (units : Nat) : Nat := Nat.log2 units - fractionBits

/-! ### Rounding -/

/-- The quotient rounded to the nearest integer; a half goes to the even neighbour. -/
def roundQuotient (num den : Nat) : Nat :=
  let low := num / den
  let rest := num % den
  if 2 * rest > den || (2 * rest == den && low % 2 == 1) then low + 1 else low

/-- A magnitude given in units, once it has been rounded to the spacing of the format. -/
def ofUnits (negative : Bool) (units : Nat) : Binary64 :=
  if units < overflowUnits then finite negative units else infinite negative

/-- The nearest number to a quotient of natural numbers, with a sign. -/
def ofRatio (negative : Bool) (num den : Nat) : Binary64 :=
  let scaled := num * unitsOfOne
  let spacing := Nat.pow 2 (spacingBits (scaled / den))
  ofUnits negative (roundQuotient scaled (den * spacing) * spacing)

/-- The nearest number to an integer. -/
def ofInt (n : Int) : Binary64 := ofRatio (n < 0) n.natAbs 1

/-- The number of decimal digits of a natural number. -/
def decimalLength (n : Nat) : Nat := (Nat.toDigits 10 n).length

/-- The nearest number to `digits` times ten to the `exponent`.  Exponents far outside the
    format are settled without computing the power. -/
def ofDecimal (negative : Bool) (digits : Nat) (exponent : Int) : Binary64 :=
  let magnitude := exponent + decimalLength digits
  if digits == 0 || magnitude < -400 then finite negative 0
  else if magnitude > 400 then infinite negative
  else if 0 ≤ exponent then ofRatio negative (digits * Nat.pow 10 exponent.toNat) 1
  else ofRatio negative digits (Nat.pow 10 (-exponent).toNat)

/-- Zero, with the positive sign. -/
def zero : Binary64 := finite false 0

/-- The nearest number to the quotient of two integers, the second one positive. -/
def ofQuotient (num : Int) (den : Nat) : Binary64 := ofRatio (num < 0) num.natAbs den

/-! ### Parts and order -/

/-- The exact value of a finite number, in units. -/
def units? : Binary64 → Option Int
  | finite negative units => some (if negative then -(units : Int) else units)
  | _ => none

/-- Whether the number equals zero, of either sign. -/
def isZero : Binary64 → Bool
  | finite _ 0 => true
  | _ => false

/-- The number strictly below the other one. -/
def lt : Binary64 → Binary64 → Bool
  | nan, _ => false
  | _, nan => false
  | infinite s, infinite t => s && !t
  | infinite s, finite _ _ => s
  | finite _ _, infinite t => !t
  | finite s a, finite t b =>
    (if s then -(a : Int) else a) < (if t then -(b : Int) else b)

/-- The number below or equal to the other one. -/
def le (x y : Binary64) : Bool :=
  match x, y with
  | nan, _ => false
  | _, nan => false
  | x, y => !lt y x

/-- The integer left when the fraction is cut off; an infinite number and what is not a number
    have none. -/
def truncate? (x : Binary64) : Option Int :=
  x.units?.map fun n => Int.tdiv n unitsOfOne

/-- The number scaled by a power of two, which changes no digit unless it overflows. -/
def scaleUp (bits : Nat) : Binary64 → Binary64
  | nan => nan
  | infinite s => infinite s
  | finite s u => ofUnits s (u * Nat.pow 2 bits)

/-- The nearest number to an exact magnitude in units. -/
def roundUnits (negative : Bool) (units : Nat) : Binary64 :=
  let spacing := Nat.pow 2 (spacingBits units)
  ofUnits negative (roundQuotient units spacing * spacing)

/-- The sum, rounded; what cancels out is a positive zero. -/
def add : Binary64 → Binary64 → Binary64
  | finite s a, finite t b =>
    let sum := (if s then -(a : Int) else a) + (if t then -(b : Int) else b)
    if sum = 0 then finite (s && t) 0 else roundUnits (sum < 0) sum.natAbs
  | infinite s, infinite t => if s = t then infinite s else nan
  | infinite s, finite _ _ => infinite s
  | finite _ _, infinite t => infinite t
  | _, _ => nan

/-- The product, rounded. -/
def mul : Binary64 → Binary64 → Binary64
  | finite s a, finite t b => ofRatio (s != t) (a * b) (unitsOfOne * unitsOfOne)
  | infinite s, infinite t => infinite (s != t)
  | infinite s, finite t b => if b = 0 then nan else infinite (s != t)
  | finite s a, infinite t => if a = 0 then nan else infinite (s != t)
  | _, _ => nan

/-- The number with the other sign. -/
def negate : Binary64 → Binary64
  | nan => nan
  | infinite s => infinite (!s)
  | finite s u => finite (!s) u

/-- An integer measured in units. -/
def unitsOfInt (n : Int) : Int := n * unitsOfOne

end Binary64

end PlainScan

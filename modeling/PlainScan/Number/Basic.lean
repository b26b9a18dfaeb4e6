import PlainScan.Number.Decimal
import PlainScan.Json.Basic

namespace PlainScan

/-!
# Numbers of the settings

A setting that takes a number may hold an integer or a binary number.

* `Number` — either of them; `Number.toJson` keeps them apart.
* `Number.toBinary` — the binary number it amounts to.
* `Number.timesExceeds` — exact comparison of a multiple with a number.
* `Number.floorBytes?` — a size in mebibytes as a whole number of bytes.
-/

/-- An integer or a binary number. -/
inductive Number where
  | int (value : Int)
  | real (value : Binary64)
  deriving DecidableEq, Repr, Inhabited

namespace Number

/-- The number of a JSON value; truth values are no numbers. -/
def ofJson? : Json → Option Number
  | .int n => some (int n)
  | .num x => some (real x)
  | _ => none

/-- The written form. -/
def toJson : Number → Json
  | int n => .int n
  | real x => .num x

/-- The nearest binary number. -/
def toBinary : Number → Binary64
  | int n => .ofInt n
  | real x => x

/-- The number in six significant digits. -/
def generalText (n : Number) : String := n.toBinary.generalText

/-- The exact value in units, where the number is finite. -/
def units? : Number → Option Int
  | int n => some (Binary64.unitsOfInt n)
  | real x => x.units?

/-- Whether `count` times the first number is greater than the second one.  An infinite limit is
    never or always exceeded; a limit that is not a number never is. -/
def timesExceeds (count : Nat) (step limit : Number) : Bool :=
  match step.units?, limit.units? with
  | some s, some l => (count : Int) * s > l
  | _, none =>
    match limit with
    | real (.infinite negative) => negative
    | _ => false
  | none, _ => false

/-- Whether the number is at most an integer; the comparison is exact. -/
def atMostInt (n : Number) (limit : Int) : Bool :=
  match n.units? with
  | some units => units ≤ Binary64.unitsOfInt limit
  | none =>
    match n with
    | real (.infinite negative) => negative
    | _ => false

/-- Whether the number is above zero; what is not a number counts as if it were, because no
    comparison with it holds. -/
def isPositive : Number → Bool
  | int n => 0 < n
  | real x => !Binary64.le x Binary64.zero

/-- A size in mebibytes as whole bytes; there is none for what is infinite or not a number. -/
def floorBytes? : Number → Option Int
  | int n => some (n * 1024 * 1024)
  | real x => (x.scaleUp 20).truncate?

end Number

end PlainScan

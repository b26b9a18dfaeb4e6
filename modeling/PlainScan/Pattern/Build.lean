import PlainScan.Pattern.Basic
import PlainScan.Text.Blank

namespace PlainScan.Pattern

/-!
# Building patterns

* `sameLetter` — equality that ignores case; three ASCII letters have relatives outside ASCII.
* `literal`, `literalAnyCase` — a fixed text, exactly or in any case.
* `all`, `any` — sequences and choices of several patterns.
* `exactly` — a number of characters of a class.
-/

/-! ### Classes of characters -/

/-- Whether a character equals a lower-case ASCII letter when case is ignored. -/
def sameLetter (letter c : Char) : Bool :=
  c.toLower == letter
    || (letter == 'i' && (c == 'ı' || c == 'İ'))
    || (letter == 's' && c == 'ſ')
    || (letter == 'k' && c == '\u212A')

/-- A letter of the Latin alphabet in any case, with the relatives outside ASCII. -/
def isLetterAnyCase (c : Char) : Bool :=
  c.isAlpha || c == 'ı' || c == 'İ' || c == 'ſ' || c == '\u212A'

/-- Whether a character is one of those in a text. -/
def oneOf (chars : String) (c : Char) : Bool := chars.toList.contains c

/-! ### Combinations -/

/-- The patterns one after another. -/
def all : List Pattern → Pattern
  | [] => nothing
  | [p] => p
  | p :: rest => seq p (all rest)

/-- One of the patterns, earlier ones preferred; of no pattern there is no match. -/
def any : List Pattern → Pattern
  | [] => one fun _ => false
  | [p] => p
  | p :: rest => alt p (any rest)

/-- A fixed text. -/
def literal (text : String) : Pattern := all (text.toList.map fun x => one (· == x))

/-- A fixed text in any case; it is given in lower case. -/
def literalAnyCase (text : String) : Pattern := all (text.toList.map fun x => one (sameLetter x))

/-- A number of characters of a class. -/
def exactly (count : Nat) (allowed : Char → Bool) : Pattern :=
  all (List.replicate count (one allowed))

/-- Any number of blanks. -/
def blanks : Pattern := run Text.isBlank 0

/-- A quotation mark of either kind. -/
def isQuoteMark (c : Char) : Bool := c == '\'' || c == '"'

/-- A quotation mark of either kind. -/
def quoteMark : Pattern := one isQuoteMark

theorem ends_all_cons (p q : Pattern) (rest : List Pattern) :
    all (p :: q :: rest) = seq p (all (q :: rest)) := rfl

end PlainScan.Pattern

import PlainScan.Console.ConstantToken
import PlainScan.Text.Blank
import PlainScan.Text.Word

namespace PlainScan.Console

/-!
# Handlers

A mark that begins with an at sign names what is to be done with a text, after an equals sign: a
name, the values for it in parentheses, or both.  Nothing is done here, but the values have to be
constants.

* `Constant` — what matters of a constant: what it can be part of.
* `isConstant` — whether a text is a constant.
* `isHandler` — whether a text can stand after the equals sign.
-/

/-! ### Constants -/

/-- What a constant is where it is part of a sum: a number with or without a sign, a multiple of
    the imaginary unit without a sign, or something else. -/
inductive ConstantKind where
  | real
  | signedReal
  | imaginary
  | other
  deriving DecidableEq, Repr, Inhabited

/-- A constant, as far as its place decides whether it may stand there: `fixed` ones can be keys
    and elements of sets. -/
structure Constant where
  kind : ConstantKind
  fixed : Bool
  deriving DecidableEq, Repr, Inhabited

namespace Constant

/-- A constant that never changes and is no part of a sum. -/
def plain : Constant := ⟨.other, true⟩

/-- A constant that can change. -/
def changing : Constant := ⟨.other, false⟩

/-- A number after a sign. -/
def signed? (c : Constant) : Option Constant :=
  match c.kind with
  | .real => some ⟨.signedReal, true⟩
  | .imaginary => some plain
  | _ => none

/-- The sum or difference of two constants: of a number and a multiple of the imaginary unit. -/
def sum? (left right : Constant) : Option Constant :=
  match left.kind, right.kind with
  | .real, .imaginary | .signedReal, .imaginary => some plain
  | _, _ => none

/-- The constants that are words. -/
def words : List String := ["True", "False", "None", "..."]

/-- Whether a mark is a sign. -/
def isSign (c : Char) : Bool := c == '+' || c == '-'

/-! ### Reading -/

/-- The words after quoted texts that belong together; texts and bytes do not mix. -/
def afterQuotes? (bytes : Bool) : List ConstantToken → Option (List ConstantToken)
  | .quoted more :: rest => if more == bytes then afterQuotes? bytes rest else none
  | rest => some rest

mutual

/-- The constant at the front of some words, with what follows it. -/
def take? : Nat → List ConstantToken → Option (Constant × List ConstantToken)
  | 0, _ => none
  | fuel + 1, words => do
    let (left, rest) ← takeSigned? fuel words
    match rest with
    | .mark c :: after =>
      if isSign c then
        let (right, rest) ← takePlain? fuel after
        return (← left.sum? right, rest)
      else return (left, rest)
    | _ => return (left, rest)

/-- A constant that may have a sign. -/
def takeSigned? : Nat → List ConstantToken → Option (Constant × List ConstantToken)
  | 0, _ => none
  | fuel + 1, .mark c :: rest =>
    if isSign c then do
      let (value, rest) ← takePlain? fuel rest
      return (← value.signed?, rest)
    else takePlain? fuel (.mark c :: rest)
  | fuel + 1, words => takePlain? fuel words

/-- A constant without a sign. -/
def takePlain? : Nat → List ConstantToken → Option (Constant × List ConstantToken)
  | 0, _ => none
  | _, .number imaginary :: rest => some (⟨if imaginary then .imaginary else .real, true⟩, rest)
  | _, .quoted bytes :: rest => (afterQuotes? bytes rest).map (plain, ·)
  | _, .word "set" :: .mark '(' :: .mark ')' :: rest => some (changing, rest)
  | _, .word name :: rest => if words.contains name then some (plain, rest) else none
  | _, .mark '(' :: .mark ')' :: rest => some (plain, rest)
  | fuel + 1, .mark '(' :: rest => takeTuple? fuel rest
  | _, .mark '\x7b' :: .mark '\x7d' :: rest => some (changing, rest)
  | fuel + 1, .mark '\x7b' :: rest => do
    let (first, rest) ← take? fuel rest
    if !first.fixed then none
    match rest with
    | .mark ':' :: rest => return (changing, ← afterEntries? fuel rest)
    | _ =>
      let (more, rest) ← takeElements? '\x7d' fuel rest
      if more.all (·.fixed) then return (changing, rest) else none
  | _, _ => none

/-- The constants that follow one another behind commas up to a closing mark, before which another
    comma may stand. -/
def takeElements? (closing : Char) :
    Nat → List ConstantToken → Option (List Constant × List ConstantToken)
  | 0, _ => none
  | fuel + 1, .mark c :: rest => do
    if c == closing then return ([], rest)
    if c != ',' then none
    if rest.head? == some (.mark closing) then return ([], rest.drop 1)
    let (value, rest) ← take? fuel rest
    let (values, rest) ← takeElements? closing fuel rest
    return (value :: values, rest)
  | _, _ => none

/-- Constants up to a closing parenthesis; a single one without a comma stands for itself. -/
def takeTuple? : Nat → List ConstantToken → Option (Constant × List ConstantToken)
  | 0, _ => none
  | fuel + 1, words => do
    let (first, rest) ← take? fuel words
    if rest.head? == some (.mark ')') then return (first, rest.drop 1)
    let (more, rest) ← takeElements? ')' fuel rest
    return (⟨.other, first.fixed && more.all (·.fixed)⟩, rest)

/-- What follows the entries of a map up to its closing mark; the first key has been read. -/
def afterEntries? : Nat → List ConstantToken → Option (List ConstantToken)
  | 0, _ => none
  | fuel + 1, words => do
    let (_, rest) ← take? fuel words
    match rest with
    | .mark '\x7d' :: rest | .mark ',' :: .mark '\x7d' :: rest => return rest
    | .mark ',' :: rest =>
      let (key, rest) ← take? fuel rest
      match key.fixed, rest with
      | true, .mark ':' :: rest => afterEntries? fuel rest
      | _, _ => none
    | _ => none

end

end Constant

/-- Whether some words are a constant, or several with commas between them. -/
def areConstant (words : List ConstantToken) : Bool :=
  let words := words.dropWhile (· == .lineEnd)
  let words := (words.reverse.dropWhile (· == .lineEnd)).reverse
  (Constant.takeTuple? (4 * words.length + 4) (words ++ [.mark ')'])).any (·.2.isEmpty)

/-- Whether a text is a constant. -/
def isConstant (text : List Char) : Bool :=
  !text.contains '\x00' && (constantTokens? text).any areConstant

/-! ### Handlers -/

/-- The values in a text that is a name, values in parentheses, or both. -/
def handlerValues? (text : List Char) : Option (List Char) :=
  match text.dropWhile fun c => Text.isWord c || c == '.' with
  | [] => some "()".toList
  | '(' :: rest =>
    if rest.getLast? == some ')' && !rest.contains '\n' then some ('(' :: rest) else none
  | _ => none

/-- Whether a text can stand after the equals sign of a handler. -/
def isHandler (text : List Char) : Bool :=
  let text := Text.strip text
  isConstant ((handlerValues? text).getD text)

end PlainScan.Console

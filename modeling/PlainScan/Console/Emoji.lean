import PlainScan.Console.EmojiTable
import PlainScan.Text.Blank
import PlainScan.Text.LowerCase
import PlainScan.Text.Pieces

namespace PlainScan.Console

/-!
# Codes of emoji

An emoji may be written as its name between colons.  A variant at the end of the code asks for the
form of a letter or of a picture.

* `emojiOf?` — the emoji of a name.
* `EmojiCode.first?` — the code that begins with a colon.
* `replaceCodes` — a text with emoji for the codes of those that have a name.
-/

open PlainScan.Text (isBlank startsWith)

/-! ### Names -/

/-- Pairs each entry with the one after it, with the name in front. -/
def pairUp : List String → List (String × String)
  | shown :: name :: rest => (name, shown) :: pairUp rest
  | _ => []

/-- The names of a table, and what they stand for. -/
def readTable (table : List String) : List (String × String) :=
  pairUp (table.flatMap fun line => line.splitOn " ")

/-- The names of emoji that stand for themselves. -/
def plainEmoji : List (String × String) := readTable plainEmojiTable

/-- The names of emoji that may take a tone of skin. -/
def toneEmoji : List (String × String) := readTable toneEmojiTable

/-- The names of countries, and their codes. -/
def countries : List (String × String) := readTable countryTable

/-- The tones of skin and the characters for them. -/
def skinTones : List (String × Char) :=
  [("light", Char.ofNat 0x1F3FB), ("medium-light", Char.ofNat 0x1F3FC),
    ("medium", Char.ofNat 0x1F3FD), ("medium-dark", Char.ofNat 0x1F3FE),
    ("dark", Char.ofNat 0x1F3FF)]

/-- An emoji with a tone of skin, which stands behind the first character in place of a
    selector. -/
def withTone (tone : Char) : List Char → List Char
  | c :: '\uFE0F' :: rest => c :: tone :: rest
  | c :: rest => c :: tone :: rest
  | [] => []

/-- The flag of a country, spelt with the letters of its code. -/
def flagOf (code : List Char) : List Char :=
  code.map fun c => Char.ofNat (0x1F1E6 + (c.toNat - 'A'.toNat))

/-- What stands in front of an ending. -/
def beforeEnding? (ending text : List Char) : Option (List Char) :=
  if startsWith ending.reverse text.reverse then some (text.take (text.length - ending.length))
  else none

/-- The emoji of a name that ends in a tone of skin. -/
def toneNamed? (name : List Char) (tone : String × Char) : Option (List Char) :=
  (beforeEnding? ("_" ++ tone.1 ++ "_skin_tone").toList name).bind fun base =>
    (toneEmoji.lookup (String.ofList base)).map fun shown => withTone tone.2 shown.toList

/-- The flag of a country that is named, or asked for as a flag. -/
def flagNamed? (name : List Char) : Option (List Char) :=
  let asked := "flag_for_".toList
  let country := if startsWith asked name then name.drop asked.length else name
  (countries.lookup (String.ofList country)).map fun code => flagOf code.toList

/-- The emoji of a name. -/
def emojiOf? (name : List Char) : Option (List Char) :=
  match plainEmoji.lookup (String.ofList name), toneEmoji.lookup (String.ofList name) with
  | some shown, _ => some shown.toList
  | none, some shown => some shown.toList
  | none, none =>
    match flagNamed? name with
    | some flag => some flag
    | none => skinTones.findSome? (toneNamed? name)

/-! ### Codes -/

/-- The variants that a code may ask for, and the selectors for them. -/
def variants : List (String × Char) := [("-text:", '\uFE0E'), ("-emoji:", '\uFE0F')]

/-- A code: the name in it, the selector that it asks for, and its end from the name on. -/
structure EmojiCode where
  name : List Char
  selector : Option Char
  ending : List Char
  deriving DecidableEq, Repr, Inhabited

namespace EmojiCode

/-- The code that goes on from a reversed beginning of its name, if it ends before a blank. -/
def goOn? (name : List Char) : List Char → Option EmojiCode
  | [] => none
  | c :: rest =>
    match variants.find? fun v => startsWith v.1.toList (c :: rest) with
    | some (ending, selector) => some ⟨name.reverse, some selector, ending.toList⟩
    | none =>
      if c == ':' then some ⟨name.reverse, none, [c]⟩
      else if isBlank c then none
      else goOn? (c :: name) rest

/-- The code whose first colon stands before a text. -/
def first? (text : List Char) : Option EmojiCode := goOn? [] text

/-- The number of characters after the first colon. -/
def size (code : EmojiCode) : Nat := code.name.length + code.ending.length

/-- What a code is shown as: its emoji, or the code itself where nothing has that name. -/
def shown (code : EmojiCode) : List Char :=
  match emojiOf? (Text.lower code.name) with
  | some emoji => emoji ++ code.selector.toList
  | none => ':' :: (code.name ++ code.ending)

end EmojiCode

/-! ### Texts -/

/-- Replaces codes, after a number of characters that belong to the last one. -/
def replaceFrom : Nat → List Char → List Char
  | _, [] => []
  | skipped + 1, _ :: rest => replaceFrom skipped rest
  | 0, c :: rest =>
    match if c == ':' then EmojiCode.first? rest else none with
    | some code => code.shown ++ replaceFrom code.size rest
    | none => c :: replaceFrom 0 rest

/-- The text with emoji for the codes of those that have a name. -/
def replaceCodes (text : List Char) : List Char := replaceFrom 0 text

theorem replaceCodes_of_no_colon (text : List Char) (h : ':' ∉ text) :
    replaceCodes text = text := by
  unfold replaceCodes
  induction text with
  | nil => rfl
  | cons c rest ih =>
    have hc : (c == ':') = false := by
      simp only [List.mem_cons, not_or] at h
      simpa using fun e => h.1 e.symm
    simp only [List.mem_cons, not_or] at h
    simp [replaceFrom, hc, ih h.2]

end PlainScan.Console

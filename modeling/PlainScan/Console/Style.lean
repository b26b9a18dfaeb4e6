import PlainScan.Text.Blank
import PlainScan.Text.LowerCase
import PlainScan.Text.Pieces

namespace PlainScan.Console

/-!
# Names of styles

A style is named by words: attributes such as bold, a colour, a colour behind, a link.  The same
style may be named in several ways.

* `Style` — a style; `Style.read` finds the one that is named.
* `Style.normalName?` — the one name among those of a style; a text that names none stands for
  itself.
-/

open PlainScan.Text (isBlank)

/-! ### Attributes -/

/-- What a text may be besides coloured. -/
inductive Attribute where
  | bold
  | dim
  | italic
  | underline
  | blink
  | blink2
  | reverse
  | conceal
  | strike
  | underline2
  | frame
  | encircle
  | overline
  deriving DecidableEq, Repr, Inhabited

namespace Attribute

/-- All attributes in the order in which they are named. -/
def all : List Attribute :=
  [bold, dim, italic, underline, blink, blink2, reverse, conceal, strike, underline2, frame,
    encircle, overline]

/-- The word for an attribute. -/
def name : Attribute → String
  | bold => "bold"
  | dim => "dim"
  | italic => "italic"
  | underline => "underline"
  | blink => "blink"
  | blink2 => "blink2"
  | reverse => "reverse"
  | conceal => "conceal"
  | strike => "strike"
  | underline2 => "underline2"
  | frame => "frame"
  | encircle => "encircle"
  | overline => "overline"

/-- The short words for some of the attributes. -/
def shortNames : List (String × Attribute) :=
  [("b", bold), ("d", dim), ("i", italic), ("u", underline), ("r", reverse), ("c", conceal),
    ("s", strike), ("uu", underline2), ("o", overline)]

/-- The attribute that a word stands for. -/
def ofWord? (word : String) : Option Attribute :=
  match all.find? fun a => a.name == word with
  | some a => some a
  | none => shortNames.lookup word

end Attribute

/-! ### Colours -/

/-- The colours that have a name. -/
def colourTable : List String :=
  ["aquamarine1 aquamarine3 black blue blue1 blue3 blue_violet bright_black bright_blue",
    "bright_cyan bright_green bright_magenta bright_red bright_white bright_yellow cadet_blue",
    "chartreuse1 chartreuse2 chartreuse3 chartreuse4 cornflower_blue cornsilk1 cyan cyan1 cyan2",
    "cyan3 dark_blue dark_cyan dark_goldenrod dark_green dark_khaki dark_magenta",
    "dark_olive_green1 dark_olive_green2 dark_olive_green3 dark_orange dark_orange3 dark_red",
    "dark_sea_green dark_sea_green1 dark_sea_green2 dark_sea_green3 dark_sea_green4",
    "dark_slate_gray1 dark_slate_gray2 dark_slate_gray3 dark_turquoise dark_violet deep_pink1",
    "deep_pink2 deep_pink3 deep_pink4 deep_sky_blue1 deep_sky_blue2 deep_sky_blue3",
    "deep_sky_blue4 default dodger_blue1 dodger_blue2 dodger_blue3 gold1 gold3 gray0 gray100",
    "gray11 gray15 gray19 gray23 gray27 gray3 gray30 gray35 gray37 gray39 gray42 gray46 gray50",
    "gray53 gray54 gray58 gray62 gray63 gray66 gray69 gray7 gray70 gray74 gray78 gray82 gray84",
    "gray85 gray89 gray93 green green1 green3 green4 green_yellow grey0 grey100 grey11 grey15",
    "grey19 grey23 grey27 grey3 grey30 grey35 grey37 grey39 grey42 grey46 grey50 grey53 grey54",
    "grey58 grey62 grey63 grey66 grey69 grey7 grey70 grey74 grey78 grey82 grey84 grey85 grey89",
    "grey93 honeydew2 hot_pink hot_pink2 hot_pink3 indian_red indian_red1 khaki1 khaki3",
    "light_coral light_cyan1 light_cyan3 light_goldenrod1 light_goldenrod2 light_goldenrod3",
    "light_green light_pink1 light_pink3 light_pink4 light_salmon1 light_salmon3",
    "light_sea_green light_sky_blue1 light_sky_blue3 light_slate_blue light_slate_gray",
    "light_slate_grey light_steel_blue light_steel_blue1 light_steel_blue3 light_yellow3",
    "magenta magenta1 magenta2 magenta3 medium_orchid medium_orchid1 medium_orchid3",
    "medium_purple medium_purple1 medium_purple2 medium_purple3 medium_purple4",
    "medium_spring_green medium_turquoise medium_violet_red misty_rose1 misty_rose3",
    "navajo_white1 navajo_white3 navy_blue orange1 orange3 orange4 orange_red1 orchid orchid1",
    "orchid2 pale_green1 pale_green3 pale_turquoise1 pale_turquoise4 pale_violet_red1 pink1",
    "pink3 plum1 plum2 plum3 plum4 purple purple3 purple4 red red1 red3 rosy_brown royal_blue1",
    "salmon1 sandy_brown sea_green1 sea_green2 sea_green3 sky_blue1 sky_blue2 sky_blue3",
    "slate_blue1 slate_blue3 spring_green1 spring_green2 spring_green3 spring_green4 steel_blue",
    "steel_blue1 steel_blue3 tan thistle1 thistle3 turquoise2 turquoise4 violet wheat1 wheat4",
    "white yellow yellow1 yellow2 yellow3 yellow4"]

/-- The names of colours. -/
def colourNames : List String := colourTable.flatMap fun line => line.splitOn " "

/-- What a word says about a colour.  A mixture of red, green and blue in which one of them is
    left out cannot be read at all. -/
inductive ColourWord where
  | colour
  | unknown
  | broken
  deriving DecidableEq, Repr, Inhabited

/-- What stands between a beginning and a closing parenthesis. -/
def between? (start : String) (word : List Char) : Option (List Char) :=
  if Text.startsWith start.toList word && word.getLast? == some ')' then
    some ((word.drop start.length).dropLast)
  else none

/-- Whether a word is a number sign and six hexadecimal digits. -/
def isHexColour : List Char → Bool
  | '#' :: digits =>
    digits.length == 6 && digits.all fun c => c.isDigit || ('a' ≤ c && c ≤ 'f')
  | _ => false

/-- The number that digits write; there has to be one. -/
def digitsValue? (digits : List Char) : Option Nat :=
  if digits.isEmpty || !digits.all Char.isDigit then none
  else some (digits.foldl (fun n c => 10 * n + (c.toNat - '0'.toNat)) 0)

/-- The greatest number of a colour, and of a part of a mixture. -/
def greatestColour : Nat := 255

/-- What the number of a colour says; it has at most three digits. -/
def ColourWord.ofNumber (digits : List Char) : ColourWord :=
  if digits.length ≤ 3 && (digitsValue? digits).any (· ≤ greatestColour) then .colour
  else .unknown

/-- What the parts of a mixture say. -/
def ColourWord.ofMixture (inner : List Char) : ColourWord :=
  if inner.isEmpty || !(inner.all fun c => c == ',' || c.isDigit) then .unknown
  else
    match Text.pieces ',' inner with
    | [red, green, blue] =>
      match [red, green, blue].mapM digitsValue? with
      | none => .broken
      | some values => if values.all (· ≤ greatestColour) then .colour else .unknown
    | _ => .unknown

/-- What a word in lower case says about a colour. -/
def ColourWord.ofLower (word : List Char) : ColourWord :=
  if colourNames.contains (String.ofList word) || isHexColour word then .colour
  else
    match between? "color(" word, between? "rgb(" word with
    | some digits, _ => ofNumber digits
    | none, some inner => ofMixture inner
    | none, none => .unknown

/-! ### Styles -/

/-- A style: the attributes that it sets or takes away, the colours and a link. -/
structure Style where
  attributes : List (Attribute × Bool) := []
  colour : Option String := none
  behind : Option String := none
  link : Option String := none
  deriving DecidableEq, Repr, Inhabited

/-- Why no style is named: the words name none, or one of them cannot be read. -/
inductive StyleFault where
  | unknown
  | broken
  deriving DecidableEq, Repr, Inhabited

namespace Style

/-- Goes on with a word that has to be a colour. -/
def withColour (word : String) (next : String → Except StyleFault Style) :
    Except StyleFault Style :=
  let lower := Text.lowerString word
  match ColourWord.ofLower lower.toList with
  | .colour => next lower
  | .unknown => .error .unknown
  | .broken => .error .broken

/-- Adds what words say to a style. -/
def readWords (s : Style) : List String → Except StyleFault Style
  | [] => .ok s
  | word :: rest =>
    match Text.lowerString word, rest with
    | "on", [] => .error .unknown
    | "on", colour :: rest => withColour colour fun c => readWords { s with behind := some c } rest
    | "not", [] => .error .unknown
    | "not", name :: rest =>
      match Attribute.ofWord? name with
      | some a => readWords { s with attributes := (a, false) :: s.attributes } rest
      | none => .error .unknown
    | "link", [] => .error .unknown
    | "link", target :: rest => readWords { s with link := some target } rest
    | lower, rest =>
      match Attribute.ofWord? lower with
      | some a => readWords { s with attributes := (a, true) :: s.attributes } rest
      | none => withColour lower fun c => readWords { s with colour := some c } rest

/-- The words of a text. -/
def wordsOf (text : String) : List String :=
  ((text.toList.splitBy fun a b => isBlank a == isBlank b).filter fun w => !w.all isBlank).map
    String.ofList

/-- The style that a text names; none is a style, too. -/
def read (text : String) : Except StyleFault Style :=
  if Text.stripString text == "none" then .ok {} else readWords {} (wordsOf text)

/-- The word for an attribute that a style sets or takes away. -/
def attributeName? (s : Style) (a : Attribute) : Option String :=
  (s.attributes.lookup a).map fun isSet => if isSet then a.name else "not " ++ a.name

/-- The name of a style. -/
def name (s : Style) : String :=
  let colours := s.colour.toList ++ s.behind.toList.map ("on " ++ ·)
    ++ s.link.toList.map ("link " ++ ·)
  match Attribute.all.filterMap s.attributeName? ++ colours with
  | [] => "none"
  | words => " ".intercalate words

/-- The one name among those of the style that a text names, or the text itself; nothing where it
    cannot be read. -/
def normalName? (text : String) : Option String :=
  match read text with
  | .ok s => some s.name
  | .error .unknown => some (Text.lowerString (Text.stripString text))
  | .error .broken => none

end Style

end PlainScan.Console

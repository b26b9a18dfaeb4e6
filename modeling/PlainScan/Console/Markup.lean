import PlainScan.Console.Emoji
import PlainScan.Console.Handler
import PlainScan.Console.Style

namespace PlainScan.Console

/-!
# Texts with style marks

A mark in brackets opens a style and a mark with a slash closes it.  Backslashes before a mark
protect it: each pair of them stands for one, and an odd one makes the mark a part of the text.

* `protect` — a text so written that nothing in it is a mark.
* `Piece` — a stretch of text or a mark; `piecesOf` cuts a text into them.
* `plainText?` — what is shown of a text with marks; nothing where a mark closes what is not open
  or cannot be read.
-/

open PlainScan.Text (pieces)

/-! ### Marks -/

/-- What a mark may begin with after its bracket. -/
def isMarkStart (c : Char) : Bool :=
  ('a' ≤ c && c ≤ 'z') || c == '#' || c == '/' || c == '@'

/-- What stands before the closing bracket, if no bracket opens before it. -/
def untilClosed? : List Char → Option (List Char)
  | [] => none
  | ']' :: _ => some []
  | '[' :: _ => none
  | c :: rest => (untilClosed? rest).map (c :: ·)

/-- What a mark holds whose bracket has been opened before a text. -/
def markInside? : List Char → Option (List Char)
  | [] => none
  | c :: rest => if isMarkStart c then (untilClosed? rest).map (c :: ·) else none

/-- A number of backslashes. -/
def backslashes (count : Nat) : List Char := List.replicate count '\\'

/-! ### Protection -/

/-- Writes backslashes before marks, in the rest of a text that follows a number of backslashes. -/
def protectFrom (pending : Nat) : List Char → List Char
  | [] => backslashes pending
  | '\\' :: rest => protectFrom (pending + 1) rest
  | '[' :: rest =>
    let written := if (markInside? rest).isSome then 2 * pending + 1 else pending
    backslashes written ++ '[' :: protectFrom 0 rest
  | c :: rest => backslashes pending ++ c :: protectFrom 0 rest

/-- The number of backslashes at the end of a text. -/
def trailing (text : List Char) : Nat := (text.reverse.takeWhile (· == '\\')).length

/-- A text so written that nothing in it is a mark.  A single backslash at the end is doubled. -/
def protect (text : List Char) : List Char :=
  protectFrom 0 text ++ backslashes (if trailing text = 1 then 1 else 0)

/-- A text in a style. -/
def styled (style : String) (text : List Char) : List Char :=
  '[' :: (style.toList ++ ']' :: (text ++ "[/]".toList))

/-! ### Pieces -/

/-- A stretch of text, or what a mark holds. -/
inductive Piece where
  | plain (text : List Char)
  | mark (inside : List Char)
  deriving DecidableEq, Repr, Inhabited

/-- The pieces of the rest of a text: of it, `skipped` characters belong to the last mark,
    `before` is the reversed stretch that is growing, and `pending` backslashes have followed
    it. -/
def piecesFrom (before : List Char) (pending : Nat) : Nat → List Char → List Piece
  | _, [] => [.plain (before.reverse ++ backslashes pending)]
  | skipped + 1, _ :: rest => piecesFrom before pending skipped rest
  | 0, '\\' :: rest => piecesFrom before (pending + 1) 0 rest
  | 0, c :: rest =>
    match if c == '[' then markInside? rest else none with
    | some inside =>
      let marked := if pending % 2 = 1 then .plain ('[' :: (inside ++ [']'])) else .mark inside
      .plain before.reverse :: .plain (backslashes (pending / 2)) :: marked
        :: piecesFrom [] 0 (inside.length + 1) rest
    | none => piecesFrom (c :: (backslashes pending ++ before)) 0 0 rest

/-- A text as its pieces. -/
def piecesOf (text : List Char) : List Piece := piecesFrom [] 0 0 text

/-- A stretch of text without the backslashes right before its brackets. -/
def freeBrackets : List Char → List Char
  | '\\' :: '[' :: rest => '[' :: freeBrackets rest
  | c :: rest => c :: freeBrackets rest
  | [] => []

/-- What is shown of a stretch of text. -/
def shownText (text : List Char) : List Char := replaceCodes (freeBrackets text)

/-! ### Styles that are open -/

/-- A style that has been opened: its name, and what stands after an equals sign. -/
structure OpenStyle where
  name : String
  argument : Option String
  deriving DecidableEq, Repr, Inhabited

/-- The style that a mark opens. -/
def OpenStyle.ofMark? (inside : List Char) : Option OpenStyle :=
  let argument := match inside.dropWhile (· != '=') with
    | _ :: rest => some (String.ofList rest)
    | [] => none
  (Style.normalName? (String.ofList (inside.takeWhile (· != '=')))).map fun name =>
    ⟨name, argument⟩

/-- Whether what a style says can be acted on. -/
def OpenStyle.isUsable (s : OpenStyle) : Bool :=
  match s.argument with
  | none => true
  | some argument =>
    match Style.read (s.name ++ " " ++ argument) with
    | .error .broken => false
    | _ => true

/-- Whether a style can be closed: of a handler, what stands after the equals sign is read. -/
def OpenStyle.isClosable (s : OpenStyle) : Bool :=
  if s.name.startsWith "@" then
    s.argument.all fun argument => argument.isEmpty || isHandler argument.toList
  else s.isUsable

/-- Takes away the style that was opened last, or the last one of a name. -/
def closeStyle? (name : Option String) : List OpenStyle → Option (List OpenStyle)
  | [] => none
  | s :: rest =>
    if name.all (· == s.name) then if s.isClosable then some rest else none
    else (closeStyle? name rest).map (s :: ·)

/-- The styles that are open after a mark. -/
def followMark? (inside : List Char) (styles : List OpenStyle) : Option (List OpenStyle) :=
  match inside.takeWhile (· != '=') with
  | '/' :: closed =>
    let name := Text.stripString (String.ofList closed)
    if name.isEmpty then closeStyle? none styles
    else (Style.normalName? name).bind fun name => closeStyle? (some name) styles
  | _ => (OpenStyle.ofMark? inside).map (· :: styles)

/-! ### What is shown -/

/-- What is shown of pieces while some styles are open; at the end none needs to be closed. -/
def shownPieces? (styles : List OpenStyle) : List Piece → Option (List Char)
  | [] => if styles.all OpenStyle.isUsable then some [] else none
  | .plain text :: rest => (shownPieces? styles rest).map (shownText text ++ ·)
  | .mark inside :: rest => (followMark? inside styles).bind fun styles => shownPieces? styles rest

/-- What is shown of a text with marks. -/
def plainText? (text : List Char) : Option (List Char) := shownPieces? [] (piecesOf text)

end PlainScan.Console

import PlainScan.Json.Display
import PlainScan.Text.Pieces
import PlainScan.Text.Similarity

namespace PlainScan.CommandLine

/-!
# Arguments of a command

Options may stand in front of a command's own arguments or, where that is allowed, among them.
Two hyphens end the options.

* `OptionSpec` — an option: its names, and whether a value belongs to it.
* `Given` — an option as it was given; `Arguments` — all of them, and the other arguments.
* `UsageError` — what is wrong with the arguments; `UsageError.message` tells it, and which names
  may have been meant.
* `readArguments` — the options and the other arguments of a command.
-/

variable {κ : Type}

/-! ### Options -/

/-- An option of a command. -/
structure OptionSpec (κ : Type) where
  key : κ
  names : List String
  takesValue : Bool
  deriving Repr, Inhabited

/-- An option that was given, with the value of one that takes any. -/
structure Given (κ : Type) where
  key : κ
  value : String := ""
  deriving DecidableEq, Repr, Inhabited

/-- The options in the order in which they were given, and the other arguments. -/
structure Arguments (κ : Type) where
  given : List (Given κ) := []
  positional : List String := []
  deriving Repr, Inhabited

/-! ### Errors -/

/-- What is wrong with the arguments.  An unknown name comes with the known ones that are like it;
    a text with a null character cannot even be looked up as a path. -/
inductive UsageError where
  | unknownOption (name : String) (close : List String)
  | missingValue (name : String)
  | needlessValue (name : String)
  | badChoice (option value : String) (choices : List String)
  | unusablePath (option : String)
  | missingArgument (name : String)
  | extraArguments (arguments : List String)
  | unknownCommand (name : String) (close : List String)
  | missingCommand
  deriving DecidableEq, Repr, Inhabited

/-- The question whether one of a few names was meant. -/
def suggestion (close : List String) : String :=
  match (close.mergeSort fun a b => decide (a ≤ b)).map Json.displayQuoted with
  | [] => ""
  | [name] => " Did you mean " ++ name ++ "?"
  | names => " (Did you mean one of: " ++ ", ".intercalate names ++ "?)"

/-- What the user is told about an error. -/
def UsageError.message : UsageError → String
  | unknownOption name close =>
    "No such option " ++ Json.displayQuoted name ++ "." ++ suggestion close
  | missingValue name => "Option " ++ Json.displayQuoted name ++ " requires an argument."
  | needlessValue name => "Option " ++ Json.displayQuoted name ++ " does not take a value."
  | badChoice option value choices =>
    "Invalid value for '" ++ option ++ "': " ++ Json.displayQuoted value ++ " is not one of "
      ++ ", ".intercalate (choices.map Json.displayQuoted) ++ "."
  | unusablePath option => "Invalid value for '" ++ option ++ "': not a path."
  | missingArgument name => "Missing argument '" ++ name ++ "'."
  | extraArguments arguments =>
    "Got unexpected extra argument" ++ (if arguments.length = 1 then "" else "s") ++ " ("
      ++ " ".intercalate arguments ++ ")"
  | unknownCommand name close =>
    "No such command " ++ Json.displayQuoted name ++ "." ++ suggestion close
  | missingCommand => "Missing command."

/-- Whether an error is one that the user can be told about. -/
def UsageError.isForeseen : UsageError → Bool
  | unusablePath _ => false
  | _ => true

/-! ### Single options -/

/-- The option of a name. -/
def findOption? (specs : List (OptionSpec κ)) (name : String) : Option (OptionSpec κ) :=
  specs.find? fun s => s.names.contains name

/-- How many names are suggested for an unknown one. -/
def suggestionLimit : Nat := 3

/-- The names behind two hyphens that are like an unknown one. -/
def closeOptions (specs : List (OptionSpec κ)) (name : String) : List String :=
  let known := (specs.flatMap (·.names)).filter fun n => Text.startsWith ['-', '-'] n.toList
  Text.closeMatches suggestionLimit name known

/-- What an argument says: options, and the name and key of one that still waits for its value. -/
structure Reading (κ : Type) where
  given : List (Given κ)
  waiting : Option (String × κ) := none
  deriving Inhabited

/-- Whether an argument is made of options: it has a hyphen and something after it. -/
def isOptionText : List Char → Bool
  | '-' :: _ :: _ => true
  | _ => false

/-- An option written out, with the value that is attached to it. -/
def readLong (spec : OptionSpec κ) (name : String) (attached : Option String) :
    Except UsageError (Reading κ) :=
  match spec.takesValue, attached with
  | true, some value => .ok ⟨[⟨spec.key, value⟩], none⟩
  | true, none => .ok ⟨[], some (name, spec.key)⟩
  | false, none => .ok ⟨[⟨spec.key, ""⟩], none⟩
  | false, some _ => .error (.needlessValue name)

/-- Options of one letter behind a single hyphen; what follows one that takes a value is its
    value. -/
def readLetters (specs : List (OptionSpec κ)) : List Char → Except UsageError (Reading κ)
  | [] => .ok ⟨[], none⟩
  | c :: rest =>
    let name := String.ofList ['-', c]
    match findOption? specs name with
    | none => .error (.unknownOption name [])
    | some spec =>
      if spec.takesValue then
        if rest.isEmpty then .ok ⟨[], some (name, spec.key)⟩
        else .ok ⟨[⟨spec.key, String.ofList rest⟩], none⟩
      else
        match readLetters specs rest with
        | .ok r => .ok { r with given := ⟨spec.key, ""⟩ :: r.given }
        | .error e => .error e

/-- The options that an argument is made of. -/
def readOption (specs : List (OptionSpec κ)) (text : List Char) :
    Except UsageError (Reading κ) :=
  let name := text.takeWhile (· != '=')
  let attached := match text.dropWhile (· != '=') with
    | _ :: value => some (String.ofList value)
    | [] => none
  match text with
  | '-' :: '-' :: _ =>
    match findOption? specs (String.ofList name) with
    | some spec => readLong spec (String.ofList name) attached
    | none =>
      let name := String.ofList name
      .error (.unknownOption name (closeOptions specs name))
  | _ => readLetters specs (text.drop 1)

/-! ### All arguments -/

/-- Puts options in front of what was read after them. -/
def withOptions (given : List (Given κ)) :
    Except UsageError (Arguments κ) → Except UsageError (Arguments κ)
  | .ok a => .ok { a with given := given ++ a.given }
  | .error e => .error e

/-- Puts an argument in front of what was read after it. -/
def withArgument (argument : String) :
    Except UsageError (Arguments κ) → Except UsageError (Arguments κ)
  | .ok a => .ok { a with positional := argument :: a.positional }
  | .error e => .error e

/-- The options and the other arguments of a command.  Unless they may be mixed, the first other
    argument ends the options. -/
def readArguments (specs : List (OptionSpec κ)) (mixed : Bool) :
    List String → Except UsageError (Arguments κ)
  | [] => .ok {}
  | argument :: rest =>
    if argument == "--" then .ok { positional := rest }
    else if isOptionText argument.toList then
      match readOption specs argument.toList with
      | .error e => .error e
      | .ok ⟨given, none⟩ => withOptions given (readArguments specs mixed rest)
      | .ok ⟨given, some (name, key)⟩ =>
        match rest with
        | [] => .error (.missingValue name)
        | value :: rest => withOptions (given ++ [⟨key, value⟩]) (readArguments specs mixed rest)
    else if mixed then withArgument argument (readArguments specs mixed rest)
    else .ok { positional := argument :: rest }

/-- The value of an option; the one given last counts. -/
def Arguments.value? [BEq κ] (a : Arguments κ) (key : κ) : Option String :=
  (a.given.reverse.find? fun g => g.key == key).map (·.value)

/-- Whether an option was given. -/
def Arguments.has [BEq κ] (a : Arguments κ) (key : κ) : Bool := a.given.any fun g => g.key == key

/-- The options that were given, in the order in which each came first. -/
def Arguments.keys [BEq κ] (a : Arguments κ) : List κ := (a.given.map (·.key)).eraseDups

end PlainScan.CommandLine

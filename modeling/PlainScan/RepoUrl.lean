import PlainScan.Text.Blank
import PlainScan.Text.Pieces
import PlainScan.Text.Word

namespace PlainScan

/-!
# Repository addresses

An address is the host's prefix, an owner, a slash and a repository name; a final `.git` and a
final slash do not belong to the name.  The name is the shortest one that leaves nothing else behind
it.

* `RepoUrl` — an owner and a repository name.
* `RepoUrl.shortestName` — the name at the front of a text.
* `RepoUrl.parse` — the address that a text gives, or why it gives none.
* `RepoUrl.text` — the address in its normal form.
-/

/-- The repository an address names. -/
structure RepoUrl where
  owner : String
  repo : String
  deriving DecidableEq, Repr, Inhabited

/-- Why a text is no repository address. -/
inductive RepoUrlError where
  | empty
  | otherHost
  | malformed
  deriving DecidableEq, Repr, Inhabited

namespace RepoUrl

/-- What every address starts with. -/
def hostPart : String := "https://github.com/"

/-- The characters of an owner. -/
def isOwnerChar (c : Char) : Bool := Text.isWord c || c == '-'

/-- The characters of a repository name. -/
def isNameChar (c : Char) : Bool := Text.isWord c || c == '.' || c == '-'

/-- The ending of a name that is not part of it. -/
def gitEnding : List Char := ".git".toList

/-- Whether an address may end with a text: with a slash, or with nothing. -/
def endsAddress (text : List Char) : Bool := text.isEmpty || text == ['/']

/-- Whether a text may follow the name of a repository: it ends the address, perhaps after
    `.git`. -/
def followsName (text : List Char) : Bool :=
  gitEnding.isPrefixOf text && endsAddress (text.drop gitEnding.length) || endsAddress text

/-- The shortest name at the front of a text that all the rest may follow. -/
def shortestName : List Char → Option (List Char)
  | [] => none
  | c :: rest =>
    if !isNameChar c then none
    else if followsName rest then some [c]
    else (shortestName rest).map (c :: ·)

/-- The repository named after the host part. -/
def parseNames (text : List Char) : Option RepoUrl :=
  let owner := text.takeWhile isOwnerChar
  match text.dropWhile isOwnerChar with
  | '/' :: rest =>
    match shortestName rest with
    | some repo =>
      if owner.isEmpty || repo == ['.'] || repo == ['.', '.'] then none
      else some ⟨String.ofList owner, String.ofList repo⟩
    | none => none
  | _ => none

/-- The repository that a text names; blanks around it do not count. -/
def parse (text : String) : Except RepoUrlError RepoUrl :=
  let trimmed := Text.strip text.toList
  let host := hostPart.toList
  if trimmed.isEmpty then .error .empty
  else if !Text.startsWith host trimmed then .error .otherHost
  else
    match parseNames (trimmed.drop host.length) with
    | some url => .ok url
    | none => .error .malformed

/-- The normal form of the address. -/
def text (url : RepoUrl) : String := hostPart ++ url.owner ++ "/" ++ url.repo

end RepoUrl

/-- What the user is told about a text that is no address. -/
def RepoUrlError.message : RepoUrlError → String
  | .empty => "Please enter a GitHub repository URL"
  | .otherHost => "URL must start with " ++ RepoUrl.hostPart
  | .malformed =>
    "Invalid GitHub repository URL format. Expected: https://github.com/owner/repo"

end PlainScan

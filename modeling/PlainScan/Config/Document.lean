import PlainScan.Config.Settings
import PlainScan.FileTree.Standpoint
import PlainScan.Text.Lines
import PlainScan.Yaml.Reader

namespace PlainScan

/-!
# Settings from a document

* `ConfigFault` — why there are no settings; `ConfigFault.message` tells it.
* `Config.ofDocument` — the settings that a text holds.
* `Config.load` — the settings of a named document, else of the standard one of a project, else
  the defaults.
-/

/-! ### Faults -/

/-- Why there are no settings.  A document may be missing, not be a file that can be read, not be a
    text, have no value, not be a mapping, or have a wrong value. -/
inductive ConfigFault where
  | notFound (given : String)
  | unreadable (path : FilePath)
  | notText (fault : Text.DecodeFault)
  | noValue (path : FilePath) (fault : Yaml.Fault)
  | notMapping (path : FilePath) (kind : String)
  | badSetting (error : SettingError)
  deriving DecidableEq, Repr, Inhabited

/-- What the user is told about a document without a value. -/
def noValueMessage (path : FilePath) : Yaml.Fault → String
  | .illFormed => "Invalid YAML in " ++ path.text
  | .badValue fault => fault.message
  | .givenUp => "Cannot read " ++ path.text

/-- What the user is told about a fault. -/
def ConfigFault.message : ConfigFault → String
  | notFound given => "Config file not found: " ++ given
  | unreadable path => "Cannot read " ++ path.text
  | notText fault => fault.message
  | noValue path fault => noValueMessage path fault
  | notMapping path kind =>
    "Config file " ++ path.text ++ " must be a YAML mapping, got " ++ kind
  | badSetting error => error.message

/-- Whether a fault lies with the document and its settings, so that the user can be told. -/
def ConfigFault.isForeseen : ConfigFault → Bool
  | unreadable _ => false
  | noValue _ .givenUp => false
  | badSetting (.overflow _) => false
  | _ => true

namespace Config

/-! ### Documents -/

/-- The settings that a text holds; the path is for messages only. -/
def ofDocument (path : FilePath) (text : List Char) : Except ConfigFault Config :=
  match Yaml.read text with
  | .error fault => .error (.noValue path fault)
  | .ok value =>
    match value.settings? with
    | none => .error (.notMapping path value.kindName)
    | some settings =>
      match ofSettings settings with
      | .ok config => .ok config
      | .error e => .error (.badSetting e)

/-- The settings of a node that was found at a path. -/
def ofNode (path : FilePath) : FileNode → Except ConfigFault Config
  | .file content =>
    match Text.decode content with
    | .ok text => ofDocument path (Text.normaliseNewlines text)
    | .error fault => .error (.notText fault)
  | _ => .error (.unreadable path)

/-! ### Files -/

/-- The name of the document that a project keeps its settings in. -/
def standardName : String := ".lumenclew.yml"

/-- The settings of what was found at a path; where nothing lies, `absent` counts. -/
def ofFound (path : FilePath) (absent : Except ConfigFault Config) :
    Except PathFault FileNode → Except ConfigFault Config
  | .ok node => ofNode path node
  | .error fault => if fault.isAbsence then absent else .error (.unreadable path)

/-- The settings of the document that was named, which must be there, else of the standard one in
    the directory of the project, else the defaults.  Empty names count as none, and `find` tells
    what lies at a path. -/
def load (find : PathLookup) (named project : Option String) :
    Except ConfigFault Config :=
  match Environment.nonEmpty named, Environment.nonEmpty project with
  | some given, _ =>
    let path := FilePath.parse given
    ofFound path (.error (.notFound given)) (find path)
  | none, some directory =>
    let path := (FilePath.parse directory).child standardName
    ofFound path (.ok default) (find path)
  | none, none => .ok default

end Config

end PlainScan

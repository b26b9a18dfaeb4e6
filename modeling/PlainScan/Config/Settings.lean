import PlainScan.Config.Basic
import PlainScan.Text.LowerCase
import PlainScan.Yaml.Basic

namespace PlainScan

/-!
# Settings from named values

* `CountKey`, `NumberKey`, `ListKey` — the names of the settings, by the kind of value they take.
* `SettingError` — which setting has a wrong value.
* `Config.ofSettings` — the settings with the named values put in; the first wrong one, in the
  order of the keys, is reported.
-/

/-! ### Keys -/

/-- The settings that take a positive integer. -/
inductive CountKey where
  | maxFindingsPerPanel
  | fastMaxFiles
  | fullMaxFiles
  | downloadBatchSize
  | maxTokens
  | maxScansPerDay
  deriving DecidableEq, Repr, Inhabited

/-- The settings that take a positive number. -/
inductive NumberKey where
  | maxFileSizeMb
  | treeTimeout
  | fileTimeout
  | lintTimeout
  | auditTimeout
  | secretsTimeout
  | accessibilityTimeout
  | translationTimeout
  deriving DecidableEq, Repr, Inhabited

/-- The settings that take a list of strings. -/
inductive ListKey where
  | ignoredDirectories
  | allowedFileTypes
  | lintCommand
  | auditCommand
  deriving DecidableEq, Repr, Inhabited

namespace CountKey

/-- The keys in the order in which they are checked. -/
def all : List CountKey :=
  [maxFindingsPerPanel, fastMaxFiles, fullMaxFiles, downloadBatchSize, maxTokens, maxScansPerDay]

/-- The name of a setting. -/
def name : CountKey → String
  | maxFindingsPerPanel => "max_findings_per_panel"
  | fastMaxFiles => "fast_max_files"
  | fullMaxFiles => "full_max_files"
  | downloadBatchSize => "download_batch_size"
  | maxTokens => "max_tokens"
  | maxScansPerDay => "max_scans_per_day"

/-- Puts a value into the settings. -/
def set (config : Config) (value : Nat) : CountKey → Config
  | maxFindingsPerPanel => { config with maxFindingsPerPanel := value }
  | fastMaxFiles => { config with fastMaxFiles := value }
  | fullMaxFiles => { config with fullMaxFiles := value }
  | downloadBatchSize => { config with downloadBatchSize := value }
  | maxTokens => { config with maxTokens := value }
  | maxScansPerDay => { config with maxScansPerDay := value }

/-- The value in the settings. -/
def get (config : Config) : CountKey → Nat
  | maxFindingsPerPanel => config.maxFindingsPerPanel
  | fastMaxFiles => config.fastMaxFiles
  | fullMaxFiles => config.fullMaxFiles
  | downloadBatchSize => config.downloadBatchSize
  | maxTokens => config.maxTokens
  | maxScansPerDay => config.maxScansPerDay

theorem get_set_self (config : Config) (value : Nat) (k : CountKey) :
    k.get (k.set config value) = value := by
  cases k <;> rfl

end CountKey

namespace NumberKey

/-- The keys in the order in which they are checked. -/
def all : List NumberKey :=
  [maxFileSizeMb, treeTimeout, fileTimeout, lintTimeout, auditTimeout, secretsTimeout,
    accessibilityTimeout, translationTimeout]

/-- The name of a setting. -/
def name : NumberKey → String
  | maxFileSizeMb => "max_file_size_mb"
  | treeTimeout => "tree_timeout_seconds"
  | fileTimeout => "file_timeout_seconds"
  | lintTimeout => "lint_timeout_seconds"
  | auditTimeout => "audit_timeout_seconds"
  | secretsTimeout => "secrets_timeout_seconds"
  | accessibilityTimeout => "a11y_timeout_seconds"
  | translationTimeout => "translation_timeout_seconds"

/-- Puts a value into the settings. -/
def set (config : Config) (value : Number) : NumberKey → Config
  | maxFileSizeMb => { config with maxFileSizeMb := value }
  | treeTimeout => { config with treeTimeout := value }
  | fileTimeout => { config with fileTimeout := value }
  | lintTimeout => { config with lintTimeout := value }
  | auditTimeout => { config with auditTimeout := value }
  | secretsTimeout => { config with secretsTimeout := value }
  | accessibilityTimeout => { config with accessibilityTimeout := value }
  | translationTimeout => { config with translationTimeout := value }

/-- The value in the settings. -/
def get (config : Config) : NumberKey → Number
  | maxFileSizeMb => config.maxFileSizeMb
  | treeTimeout => config.treeTimeout
  | fileTimeout => config.fileTimeout
  | lintTimeout => config.lintTimeout
  | auditTimeout => config.auditTimeout
  | secretsTimeout => config.secretsTimeout
  | accessibilityTimeout => config.accessibilityTimeout
  | translationTimeout => config.translationTimeout

theorem get_set_self (config : Config) (value : Number) (k : NumberKey) :
    k.get (k.set config value) = value := by
  cases k <;> rfl

end NumberKey

namespace ListKey

/-- The keys in the order in which they are checked. -/
def all : List ListKey := [ignoredDirectories, allowedFileTypes, lintCommand, auditCommand]

/-- The name of a setting. -/
def name : ListKey → String
  | ignoredDirectories => "ignored_directories"
  | allowedFileTypes => "allowed_file_types"
  | lintCommand => "lint_command"
  | auditCommand => "audit_command"

/-- Puts a value into the settings; endings of files are kept in lower case. -/
def set (config : Config) (value : List String) : ListKey → Config
  | ignoredDirectories => { config with ignoredDirectories := value }
  | allowedFileTypes => { config with allowedFileTypes := value.map Text.lowerString }
  | lintCommand => { config with lintCommand := value }
  | auditCommand => { config with auditCommand := value }

/-- The value in the settings. -/
def get (config : Config) : ListKey → List String
  | ignoredDirectories => config.ignoredDirectories
  | allowedFileTypes => config.allowedFileTypes
  | lintCommand => config.lintCommand
  | auditCommand => config.auditCommand

end ListKey

/-- The name of the setting for the model. -/
def modelKey : String := "model"

/-! ### Values -/

/-- Which setting has a wrong value.  An integer too large for a binary number is not the fault
    of the setting's rule, and is kept apart. -/
inductive SettingError where
  | badCount (key : CountKey)
  | badNumber (key : NumberKey)
  | badList (key : ListKey)
  | badModel
  | overflow (key : NumberKey)
  deriving DecidableEq, Repr, Inhabited

/-- What the user is told about a wrong value. -/
def SettingError.message : SettingError → String
  | badCount key => key.name ++ " must be a positive integer"
  | badNumber key => key.name ++ " must be a positive number"
  | badList key => key.name ++ " must be a list of strings"
  | badModel => modelKey ++ " must be a non-empty string"
  | overflow key => key.name ++ " is too large"

/-- A positive integer. -/
def countValue (key : CountKey) : Yaml → Except SettingError Nat
  | .int n => if 0 < n then .ok n.toNat else .error (.badCount key)
  | _ => .error (.badCount key)

/-- A positive number, as a binary one. -/
def numberValue (key : NumberKey) : Yaml → Except SettingError Number
  | .int n =>
    if n ≤ 0 then .error (.badNumber key)
    else
      match Binary64.ofInt n with
      | .finite negative units => .ok (.real (.finite negative units))
      | _ => .error (.overflow key)
  | .num x => if x.le .zero then .error (.badNumber key) else .ok (.real x)
  | _ => .error (.badNumber key)

/-- A list of strings. -/
def listValue (key : ListKey) : Yaml → Except SettingError (List String)
  | .seq items =>
    match items.mapM Yaml.str? with
    | some texts => .ok texts
    | none => .error (.badList key)
  | _ => .error (.badList key)

/-- A string that is not empty. -/
def modelValue : Yaml → Except SettingError String
  | .str s => if s.isEmpty then .error .badModel else .ok s
  | _ => .error .badModel

/-! ### Settings -/

/-- Puts the value of one setting in, if it is there. -/
def putSetting (read : Yaml → Except SettingError α) (set : Config → α → Config)
    (value : Option Yaml) (config : Config) : Except SettingError Config :=
  match value with
  | none => .ok config
  | some value =>
    match read value with
    | .ok x => .ok (set config x)
    | .error e => .error e

/-- Puts the values of several settings in, one after another. -/
def putSettings (put : κ → Config → Except SettingError Config) :
    List κ → Config → Except SettingError Config
  | [], config => .ok config
  | key :: rest, config =>
    match put key config with
    | .ok config => putSettings put rest config
    | .error e => .error e

/-- The settings with the named values put in. -/
def Config.ofSettings (settings : Settings) : Except SettingError Config :=
  let value (name : String) : Option Yaml := Settings.get? settings name
  let putCount (key : CountKey) : Config → Except SettingError Config :=
    putSetting (countValue key) (fun config n => key.set config n) (value key.name)
  let putNumber (key : NumberKey) : Config → Except SettingError Config :=
    putSetting (numberValue key) (fun config n => key.set config n) (value key.name)
  let putList (key : ListKey) : Config → Except SettingError Config :=
    putSetting (listValue key) (fun config texts => key.set config texts) (value key.name)
  let putModel : Config → Except SettingError Config :=
    putSetting modelValue (fun config text => { config with model := text }) (value modelKey)
  match putSettings putCount CountKey.all .default with
  | .error e => .error e
  | .ok config =>
    match putSettings putNumber NumberKey.all config with
    | .error e => .error e
    | .ok config =>
      match putSettings putList ListKey.all config with
      | .error e => .error e
      | .ok config => putModel config

end PlainScan

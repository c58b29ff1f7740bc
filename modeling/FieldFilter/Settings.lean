import FieldFilter.Construction
import FieldFilter.Text.Lowercase

namespace FieldFilter

/-- What a caller can configure: the level of ordinary messages, the dialect that is used when none
is named, what the reference dialect puts before a field, and the column that holds the metadata. -/
structure Settings where
  logLevel : String
  defaultDialect : String
  jsonPathPrefix : String
  metadataColumn : String
deriving DecidableEq

/-- The names of the settings. -/
inductive SettingName
  | logLevel
  | defaultDialect
  | jsonPathPrefix
  | metadataColumn
deriving DecidableEq

namespace SettingName

/-- All names in the order in which faults are reported. -/
def all : List SettingName :=
  [.logLevel, .defaultDialect, .jsonPathPrefix, .metadataColumn]

def text : SettingName → String
  | .logLevel => "LOG_LEVEL"
  | .defaultDialect => "DEFAULT_DIALECT"
  | .jsonPathPrefix => "JSON_PATH_PREFIX"
  | .metadataColumn => "METADATA_COLUMN"

def ofText? (text : String) : Option SettingName :=
  all.find? (·.text == text)

end SettingName

namespace Settings

def default : Settings :=
  ⟨"INFO", "generic", "$.", "metadata"⟩

instance : Inhabited Settings := ⟨default⟩

def get (s : Settings) : SettingName → String
  | .logLevel => s.logLevel
  | .defaultDialect => s.defaultDialect
  | .jsonPathPrefix => s.jsonPathPrefix
  | .metadataColumn => s.metadataColumn

def set (s : Settings) (name : SettingName) (value : String) : Settings :=
  match name with
  | .logLevel => { s with logLevel := value }
  | .defaultDialect => { s with defaultDialect := value }
  | .jsonPathPrefix => { s with jsonPathPrefix := value }
  | .metadataColumn => { s with metadataColumn := value }

/-- Where settings come from. The names of variables, of the environment and of a file, are matched
in any case; a variable may be mentioned without a value. Arguments are matched exactly. -/
structure Sources where
  arguments : List (String × Datum)
  environment : List (String × String)
  file : List (String × Option String)

/-- The value of a variable; of several names that differ in case the last one counts. -/
def assigned? (assignments : List (String × Option String)) (name : SettingName) : Option String :=
  match assignments.reverse.find? fun entry => lowercase entry.1 == lowercase name.text with
  | some (_, value) => value
  | none => none

/-- What a setting is given: the argument, else the environment's value, else the file's value,
else the default. -/
def given (sources : Sources) (name : SettingName) : Datum :=
  match sources.arguments.lookup name.text with
  | some d => d
  | none =>
    match assigned? (sources.environment.map fun entry => (entry.1, some entry.2)) name with
    | some s => .scalar (.text s)
    | none =>
      match assigned? sources.file name with
      | some s => .scalar (.text s)
      | none => .scalar (.text (default.get name))

/-- The issues of all settings that are not given a text. -/
def issues (sources : Sources) : List Issue :=
  SettingName.all.filterMap fun name =>
    match fieldText name.text (given sources name) with
    | .ok _ => none
    | .error issue => some issue

/-- Refuses a variable that an environment cannot hold. -/
def checkVariable (name value : String) : Except EnvironmentFault Unit :=
  if (name ++ value).toList.contains '\x00' then .error .nullCharacter
  else if name.toList.contains '=' then .error .equalsSignInName
  else .ok ()

/-- The settings that the sources give, their environment taken as it is. -/
def gather (sources : Sources) : Except ValidationError Settings :=
  match issues sources with
  | [] => .ok (SettingName.all.foldl (fun s name =>
      match fieldText name.text (given sources name) with
      | .ok text => s.set name text
      | .error _ => s) default)
  | found => .error ⟨found⟩

/-- The settings that the sources give. -/
def load (sources : Sources) : Except Failure Settings := do
  (sources.environment.forM fun entry => checkVariable entry.1 entry.2).mapError .environment
  (gather sources).mapError .validation

end Settings

end FieldFilter

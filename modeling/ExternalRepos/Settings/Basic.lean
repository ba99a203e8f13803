import ExternalRepos.Path

/-!
# Settings

The five settings of the program, their defaults, and their place in a
configuration file and in the environment. The two directories are loaded in the
normal form of paths; a setting that is set later is kept as it is given.
-/

namespace ExternalRepos

/-- A setting. -/
inductive Setting
  | workspaceRoot
  | outputBase
  | semanticsVersion
  | repoNameSeparator
  | logLevel
  deriving DecidableEq, Inhabited

namespace Setting

/-- Every setting, in the order in which they are shown. -/
def all : List Setting :=
  [.workspaceRoot, .outputBase, .semanticsVersion, .repoNameSeparator, .logLevel]

/-- The name under which a setting is shown. -/
def name : Setting → String
  | .workspaceRoot => "workspace_root"
  | .outputBase => "output_base"
  | .semanticsVersion => "semantics_version"
  | .repoNameSeparator => "repo_name_separator"
  | .logLevel => "log_level"

/-- The setting of a given name. -/
def ofName? (name : String) : Option Setting :=
  all.find? fun setting => setting.name = name

/-- The value of a setting that nobody set. -/
def default : Setting → String
  | .workspaceRoot => "."
  | .outputBase => ".modext"
  | .semanticsVersion => "1"
  | .repoNameSeparator => "+"
  | .logLevel => "WARNING"

/-- Whether a setting is a directory. -/
def isPath : Setting → Bool
  | .workspaceRoot => true
  | .outputBase => true
  | _ => false

/-- The section of a configuration file that holds a setting. -/
def sectionName : Setting → String
  | .workspaceRoot => "workspace"
  | .outputBase => "workspace"
  | .semanticsVersion => "evaluation"
  | .repoNameSeparator => "evaluation"
  | .logLevel => "logging"

/-- The key of a setting in its section. -/
def key : Setting → String
  | .workspaceRoot => "root"
  | .outputBase => "output_base"
  | .semanticsVersion => "semantics_version"
  | .repoNameSeparator => "repo_name_separator"
  | .logLevel => "level"

/-- The form in which a text is loaded as the value of a setting. -/
def normalForm (setting : Setting) (text : String) : String :=
  if setting.isPath then Path.normalize text else text

end Setting

/-- A value for every setting. -/
structure Settings where
  workspaceRoot : String
  outputBase : String
  semanticsVersion : String
  repoNameSeparator : String
  logLevel : String
  deriving DecidableEq, Inhabited

namespace Settings

/-- The settings with given values. -/
def ofFunction (value : Setting → String) : Settings where
  workspaceRoot := value .workspaceRoot
  outputBase := value .outputBase
  semanticsVersion := value .semanticsVersion
  repoNameSeparator := value .repoNameSeparator
  logLevel := value .logLevel

/-- The value of a setting. -/
def get (settings : Settings) : Setting → String
  | .workspaceRoot => settings.workspaceRoot
  | .outputBase => settings.outputBase
  | .semanticsVersion => settings.semanticsVersion
  | .repoNameSeparator => settings.repoNameSeparator
  | .logLevel => settings.logLevel

/-- The settings that nobody changed. -/
def default : Settings := ofFunction Setting.default

/-- The settings with one of them replaced. -/
def set (settings : Settings) (setting : Setting) (text : String) : Settings :=
  ofFunction fun other => if other = setting then text else settings.get other

/-- The names and values in the order in which they are shown. -/
def toList (settings : Settings) : List (String × String) :=
  Setting.all.map fun setting => (setting.name, settings.get setting)

/-- A version if one is given and not empty, else the one of the settings. -/
def chooseVersion (settings : Settings) (version : Option String) : String :=
  match version with
  | some text => if text = "" then settings.semanticsVersion else text
  | none => settings.semanticsVersion

end Settings

end ExternalRepos

import ExternalRepos.Error
import ExternalRepos.Settings.Basic
import ExternalRepos.Text.Lower
import ExternalRepos.Value.Equality

/-!
# Where settings come from

At most one configuration file counts: the one that the environment names, if
it is there, else the default one, if that is there. A setting is the value of
its key in this file, else the value of its environment variable, else its
default. The semantics version may be any value in a file and becomes a text;
any other setting must be a text there, and all that are not are reported
together.

The sections of a file should be mappings, and so should the file. What is none
is searched nevertheless: a text or a list that does not hold the key gives no
setting, and everything else makes the whole file malformed.
-/

namespace ExternalRepos

namespace Setting

/-- The value of a key in the section of a file. -/
def inSection (key : String) (table : Value) : Except Error (Option Value) :=
  match table.holds? key, table.field? key with
  | none, _ => .error (.notIterable table.typeName)
  | some false, _ => .ok none
  | some true, none => .error (.notBound key table.typeName)
  | some true, some value => .ok (some value)

/-- The value of a setting in a configuration file. -/
def fromFile (setting : Setting) (file : Value) : Except Error (Option Value) :=
  if file.entries?.isNone then .error (.noBindings file.typeName)
  else
    match file.field? setting.sectionName with
    | none => .ok none
    | some table => (inSection setting.key table).map fun found =>
        found.map fun value => if setting = .semanticsVersion then .text value.asText else value

/-- The name of the environment variable of a setting, in lower case. -/
def variableName (setting : Setting) : String :=
  "modext_" ++ setting.name

/-- The value of a setting in the environment: that of the last variable with its name. -/
def fromEnvironment? (setting : Setting) (environment : List (String × String)) :
    Option String :=
  (environment.reverse.find? fun entry =>
    Text.lower entry.1.toList = setting.variableName.toList).map Prod.snd

/-- The value of a setting, or nothing if a file gives it an unusable one. -/
def load? (setting : Setting) (environment : List (String × String)) (given : Option Value) :
    Option String :=
  match given with
  | some value => value.text?.map setting.normalForm
  | none =>
      match setting.fromEnvironment? environment with
      | some text => some (setting.normalForm text)
      | none => some setting.default

end Setting

/-- Why settings cannot be loaded. -/
inductive SettingsError
  /-- The file is not made of sections. -/
  | malformed (cause : Error)
  /-- The settings to which the file gives no text. -/
  | unusable (settings : List Setting)
  deriving DecidableEq, Inhabited

namespace Settings

/-- The settings among some that a configuration file gives, up to the first that is malformed. -/
def fromFile (file : Value) : List Setting → Except Error (List (Setting × Value))
  | [] => .ok []
  | setting :: rest => do
      let found ← setting.fromFile file
      let others ← fromFile file rest
      return (found.map fun value => (setting, value)).toList ++ others

/-- The settings that a configuration file gives, in the order in which they are shown. -/
def flatten (file : Value) : Except Error (List (String × Value)) :=
  (fromFile file Setting.all).map fun given => given.map fun entry => (entry.1.name, entry.2)

/-- The settings of an environment and what a file gives, or all settings with an unusable value. -/
def combine (environment : List (String × String)) (given : List (Setting × Value)) :
    Except SettingsError Settings :=
  match Setting.all.filter fun setting =>
      (setting.load? environment (given.lookup setting)).isNone with
  | [] => .ok (ofFunction fun setting =>
      (setting.load? environment (given.lookup setting)).getD setting.default)
  | unusable => .error (.unusable unusable)

/-- The settings of an environment and a file. -/
def load (environment : List (String × String)) (file : Option Value) :
    Except SettingsError Settings :=
  match file with
  | none => combine environment []
  | some file =>
      match fromFile file Setting.all with
      | .error cause => .error (.malformed cause)
      | .ok given => combine environment given

/-- The configuration file that counts if the environment names none. -/
def defaultFile : String := "modext_settings.toml"

/-- The contents of the configuration file that counts, out of the regular files that there are. -/
def chooseFile (named : Option String) (files : List (String × Value)) : Option Value :=
  let chosen := match named with
    | some path => if path = "" then none else files.lookup (Path.normalize path)
    | none => none
  match chosen with
  | some file => some file
  | none => files.lookup defaultFile

end Settings

end ExternalRepos

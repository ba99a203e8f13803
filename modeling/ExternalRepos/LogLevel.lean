import ExternalRepos.Error

/-!
# Log levels

Log levels are numbers; the usual ones have names. A name is read in any case,
and one that is not known means the level of informative messages. A log can
only be opened at a level that has a name.
-/

namespace ExternalRepos.LogLevel

/-- The named levels. -/
def named : List (String × Int) := [
  ("CRITICAL", 50), ("FATAL", 50), ("ERROR", 40), ("WARN", 30), ("WARNING", 30), ("INFO", 20),
  ("DEBUG", 10), ("NOTSET", 0)]

/-- The level of informative messages. -/
def info : Int := 20

/--
A character of a level name in upper case. Outside ASCII only the dotless i and
the long s have an ASCII capital, so no other character can occur in a name.
-/
def upperChar (char : Char) : Char :=
  if char = Char.ofNat 0x131 then 'I'
  else if char = Char.ofNat 0x17f then 'S'
  else char.toUpper

/-- The level of a name. -/
def ofName (name : String) : Int :=
  (named.lookup (String.ofList (name.toList.map upperChar))).getD info

/-- The level of a log that is opened at a level. -/
def openAt (level : Int) : Except Error Int :=
  if named.any fun entry => entry.2 = level then .ok level
  else .error (.missingKey (toString level))

/-- Where log messages go: nowhere, or to the console from a level on. -/
inductive Handler
  | discard
  | console (level : Int)
  deriving DecidableEq

/-- The handler of log messages, with the level of the log unless the console has its own. -/
def handler (level : Int) (console : Bool) (consoleLevel : Option Int) : Handler :=
  if console then .console (consoleLevel.getD level) else .discard

end ExternalRepos.LogLevel

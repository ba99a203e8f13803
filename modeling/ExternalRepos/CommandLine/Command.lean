/-!
# Commands

The commands of the program and how they are read from the command line.
Options and arguments may stand in any order; an option that takes a value has
it in the next place, after an equals sign if its long name is used, or right
behind its letter. What follows `--` holds no options. Of a repeated option the
last one counts.
-/

namespace ExternalRepos

/-- How extensions are to be evaluated. -/
structure EvalOptions where
  path : String
  /-- The module that uses the extensions. -/
  module : String
  /-- The name of the only extension to evaluate; the empty name stands for all of them. -/
  extension : String
  asJson : Bool
  /-- Where to write a log. -/
  logFile : Option String
  deriving DecidableEq, Inhabited

/-- A command with its arguments. -/
inductive Command
  | eval (options : EvalOptions)
  | checkName (name : String)
  | vendor (path function : String)
  | config
  deriving DecidableEq, Inhabited

/-- Why arguments are no command. -/
inductive UsageError
  | missingCommand
  | unknownCommand (name : String)
  | unknownOption (name : String)
  | missingValue (option : String)
  | unexpectedValue (option : String)
  | missingArgument (name : String)
  | unexpectedArgument (argument : String)
  deriving DecidableEq, Inhabited

/-- The text of a usage error. -/
def UsageError.message : UsageError → String
  | .missingCommand => "Missing command."
  | .unknownCommand name => "No such command '" ++ name ++ "'."
  | .unknownOption name => "No such option: " ++ name
  | .missingValue option => "Option '" ++ option ++ "' requires an argument."
  | .unexpectedValue option => "Option '" ++ option ++ "' does not take a value."
  | .missingArgument name => "Missing argument '" ++ name ++ "'."
  | .unexpectedArgument argument => "Got unexpected extra argument (" ++ argument ++ ")"

namespace Command

/-- An option that a command understands; only options with a value have a letter. -/
structure Flag where
  name : String
  letter : Option Char
  takesValue : Bool
  deriving DecidableEq, Inhabited

/-- The options and arguments found on the command line, each in order. -/
structure Words where
  /-- The options by name, with their values; the value of one that takes none is empty. -/
  options : List (String × String)
  arguments : List String
  deriving DecidableEq, Inhabited

namespace Words

/-- No words. -/
def empty : Words := ⟨[], []⟩

/-- The words after an option. -/
def addOption (name value : String) (words : Words) : Words :=
  { words with options := (name, value) :: words.options }

/-- The words after an argument. -/
def addArgument (argument : String) (words : Words) : Words :=
  { words with arguments := argument :: words.arguments }

/-- The value of an option: that of its last occurrence. -/
def value? (words : Words) (name : String) : Option String :=
  words.options.reverse.lookup name

end Words

/-- What one word of the command line is. -/
inductive Word
  | argument
  /-- An option with its value. -/
  | option (name value : String)
  /-- An option whose value is the next word. -/
  | awaiting (name : String)
  /-- The end of the options. -/
  | endOfOptions

/-- What a word with two dashes is: the name of an option, and its value after an equals sign. -/
def readLong (flags : List Flag) (word : String) : Except UsageError Word :=
  let (name, attached) := word.toList.span (· ≠ '=')
  match flags.find? fun flag => flag.name.toList = name with
  | none => .error (.unknownOption (String.ofList name))
  | some flag =>
      match flag.takesValue, attached with
      | true, [] => .ok (.awaiting flag.name)
      | true, _ :: value => .ok (.option flag.name (String.ofList value))
      | false, [] => .ok (.option flag.name "")
      | false, _ :: _ => .error (.unexpectedValue flag.name)

/-- What a word with one dash is: the letter of an option, and its value if anything follows. -/
def readShort (flags : List Flag) (letter : Char) (value : List Char) : Except UsageError Word :=
  match flags.find? fun flag => flag.letter = some letter with
  | none => .error (.unknownOption (String.ofList ['-', letter]))
  | some flag =>
      match value with
      | [] => .ok (.awaiting flag.name)
      | value => .ok (.option flag.name (String.ofList value))

/-- What a word of the command line is. -/
def readWord (flags : List Flag) (word : String) : Except UsageError Word :=
  match word.toList with
  | ['-', '-'] => .ok .endOfOptions
  | '-' :: '-' :: _ => readLong flags word
  | '-' :: letter :: value => readShort flags letter value
  | _ => .ok .argument

/-- The options and arguments of a command line. -/
def readWords (flags : List Flag) : List String → Except UsageError Words
  | [] => .ok .empty
  | word :: rest =>
      match readWord flags word with
      | .error problem => .error problem
      | .ok .endOfOptions => .ok ⟨[], rest⟩
      | .ok .argument => (readWords flags rest).map (Words.addArgument word)
      | .ok (.option name value) => (readWords flags rest).map (Words.addOption name value)
      | .ok (.awaiting name) =>
          match rest with
          | [] => .error (.missingValue name)
          | value :: later => (readWords flags later).map (Words.addOption name value)

/-- The only argument. -/
def onlyArgument (name : String) (words : Words) : Except UsageError String :=
  match words.arguments with
  | [] => .error (.missingArgument name)
  | [argument] => .ok argument
  | _ :: extra :: _ => .error (.unexpectedArgument extra)

/-- The name of the module that uses extensions unless another is given. -/
def defaultModule : String := "_main"

/-- The name of the vendor function unless another is given. -/
def defaultFunction : String := "vendor"

/-- The options of `eval`. -/
def evalFlags : List Flag := [
  ⟨"--module", some 'm', true⟩, ⟨"--extension", some 'e', true⟩, ⟨"--json", none, false⟩,
  ⟨"--log", none, true⟩]

/-- The options of `vendor`. -/
def vendorFlags : List Flag := [⟨"--function", some 'f', true⟩]

/-- The command `eval` with the given words. -/
def readEval (words : Words) : Except UsageError Command := do
  let path ← onlyArgument "PATH" words
  return .eval {
    path := path
    module := (words.value? "--module").getD defaultModule
    extension := (words.value? "--extension").getD ""
    asJson := (words.value? "--json").isSome
    logFile := words.value? "--log" }

/-- The command `vendor` with the given words. -/
def readVendor (words : Words) : Except UsageError Command := do
  let path ← onlyArgument "PATH" words
  return .vendor path ((words.value? "--function").getD defaultFunction)

/-- The command `config`, which takes no words. -/
def readConfig (words : Words) : Except UsageError Command :=
  match words.arguments with
  | [] => .ok .config
  | extra :: _ => .error (.unexpectedArgument extra)

/-- The command of a command line. -/
def read : List String → Except UsageError Command
  | [] => .error .missingCommand
  | name :: rest =>
      if name = "eval" then
        (readWords evalFlags rest).bind readEval
      else if name = "check-name" then
        (readWords [] rest).bind fun words => (onlyArgument "NAME" words).map .checkName
      else if name = "vendor" then
        (readWords vendorFlags rest).bind readVendor
      else if name = "config" then
        (readWords [] rest).bind readConfig
      else
        .error (.unknownCommand name)

end Command

end ExternalRepos

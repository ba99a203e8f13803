import ExternalRepos.CommandLine.Command
import ExternalRepos.CommandLine.Evaluations
import ExternalRepos.CommandLine.Files
import ExternalRepos.Text.Echoed
import ExternalRepos.Version

/-!
# Running commands

A command prints everything at its end: its output if it succeeds, or one line
about what went wrong. Errors that users of the program bring about are
reported in this way; any other error escapes, after what was printed before
it. The events of the extensions that were evaluated go to standard error in
either case.

Neither stream is a terminal: messages and documents lose their control
sequences, and lines end with a line feed alone.
-/

namespace ExternalRepos

/-- Why a command does not succeed. -/
inductive CommandFailure
  /-- A problem that is reported on one line. -/
  | reported (problem : String)
  /-- An error that nobody expected, after some output. -/
  | escaped (failure : Error) (printed : String)
  deriving DecidableEq, Inhabited

/-- What can be seen of a command when it has ended. -/
structure CommandOutcome where
  exitCode : Nat
  stdout : String
  stderr : String
  /-- The paths of the log files. -/
  logs : List String
  escaped : Option Error
  deriving Inhabited

namespace CommandOutcome

/-- Messages as lines of text, each closed by a line feed. -/
def unlines (messages : List String) : String :=
  String.join (messages.map fun message => Text.withoutSequences message ++ "\n")

/-- The outcome of a command that ends with an exit code and with what was sent to both streams. -/
def ended (files : Files) (exitCode : Nat) (stdout stderr : String) (escaped : Option Error) :
    CommandOutcome :=
  ⟨exitCode, Text.withLineFeeds stdout, Text.withLineFeeds stderr, files.logs, escaped⟩

/-- The outcome of a command that ends with output or with a failure. -/
def ofResult (files : Files) (stderr : String) : Except CommandFailure String → CommandOutcome
  | .ok output => ended files 0 output stderr none
  | .error (.reported problem) => ended files 1 (unlines ["[ERROR] " ++ problem]) stderr none
  | .error (.escaped failure printed) => ended files 1 printed stderr (some failure)

/-- The outcome of a command line that is no command. -/
def ofUsageError (files : Files) (problem : UsageError) : CommandOutcome :=
  ended files 2 "" (unlines ["Error: " ++ problem.message]) none

end CommandOutcome

namespace Command

/-- The ending of definition files. -/
def definitionEnding : String := ".py"

/-- The endings of definition files in a compiled form. -/
def compiledEndings : List String := [".pyc", ".so"]

/-- The definitions in the file at a path, whose ending says in which form they are. -/
def load (files : Files) (path : String) : Except CommandFailure DefinitionFile :=
  let shown := Path.normalize path
  match files.definitionFile path with
  | .error failure => .error (.escaped failure "")
  | .ok none => .error (.reported ("File not found: " ++ shown))
  | .ok (some file) =>
      if Path.hasEnding definitionEnding shown then .ok file
      else if compiledEndings.any fun ending => Path.hasEnding ending shown then
        .error (.escaped (.wrongContents shown) "")
      else .error (.reported ("Cannot load " ++ shown ++ " as a Python module"))

/-- The extensions with a name; with the empty name, all of them. -/
def select (name : String) (extensions : List (String × List Step)) :
    List (String × List Step) :=
  extensions.filter fun entry => name = "" || entry.1 = name

/-- What is printed about evaluations, or why nothing is. -/
def showEvaluations (asJson : Bool) (evaluations : Evaluations) : Except CommandFailure String :=
  match evaluations.failure with
  | some failure =>
      if failure.kind = .extensionEvaluation then .error (.reported failure.message)
      else .error (.escaped failure "")
  | none =>
      if asJson then
        evaluations.json.mapError fun failure => .escaped failure ""
      else
        match evaluations.printed with
        | (output, none) => .ok output
        | (output, some failure) => .error (.escaped failure output)

/-- The files when the log has been opened, and why it was not. -/
def openLog (options : EvalOptions) (files : Files) : Files × Except Error Unit :=
  match options.logFile with
  | some path => files.write path
  | none => (files, .ok ())

/-- Evaluates the extensions of a file, and tells their events and what is printed. -/
def evaluateFile (settings : Settings) (files : Files) (options : EvalOptions) :
    List Event × Except CommandFailure String :=
  match load files options.path with
  | .error failure => ([], .error failure)
  | .ok file =>
      match select options.extension file.extensions with
      | [] =>
          ([], .error (.reported
            ("No module extensions found in " ++ Path.normalize options.path)))
      | extensions =>
          let evaluations :=
            Evaluations.run ⟨settings, file.rules⟩ options.module extensions .empty
          (evaluations.events, showEvaluations options.asJson evaluations)

/-- Opens the log, and evaluates the extensions of a file. -/
def runEval (settings : Settings) (given : Files) (options : EvalOptions) : CommandOutcome :=
  match openLog options given with
  | (files, .error failure) => .ofResult files "" (.error (.escaped failure ""))
  | (files, .ok ()) =>
      let (events, result) := evaluateFile settings files options
      .ofResult files (CommandOutcome.unlines (events.map Event.written)) result

/-- Says whether extensions may use a name. -/
def checkedName (name : String) : Except CommandFailure String :=
  match checkUserProvided name with
  | .ok () => .ok (CommandOutcome.unlines ["'" ++ name ++ "' is a valid repository name"])
  | .error failure => .error (.reported failure.message)

/-- The lines about the repositories that a vendor file has marked. -/
def markLines (marks : VendorMarks) : List String :=
  (VendorMarks.listed marks.ignored).map (fun repository => "ignored " ++ repository.written) ++
    (VendorMarks.listed marks.pinned).map fun repository => "pinned  " ++ repository.written

/-- What is printed about a vendor function that has run, or why nothing is. -/
def showMarks : Except Error VendorMarks → Except CommandFailure String
  | .ok marks => .ok (CommandOutcome.unlines (markLines marks))
  | .error failure =>
      if failure.kind.stopsEvaluation then .error (.reported failure.message)
      else .error (.escaped failure "")

/-- Calls an operation of a file with the context of a vendor file. -/
def callVendor (settings : Settings) (file : DefinitionFile) (name : String) :
    Operation → Except Error VendorMarks
  | .program body =>
      (VendorFile.run settings "ctx" .empty fun entered =>
        Step.runBody ⟨settings, file.rules⟩ body entered).2
  | .comparison => .ok .empty
  | .other => .error (.takesNoContext name)

/-- Evaluates the vendor function of a file. -/
def runVendor (settings : Settings) (files : Files) (path function : String) :
    Except CommandFailure String := do
  let file ← load files path
  match file.operation? function with
  | none =>
      .error (.reported
        (Path.normalize path ++ " does not define a callable '" ++ function ++ "'"))
  | some operation => showMarks (callVendor settings file function operation)

/-- The effective settings, under the version of the program. -/
def configLines (settings : Settings) : List String :=
  ("modext " ++ version) :: settings.toList.map fun entry => entry.1 ++ " = " ++ entry.2

/-- The paths that a command is given. -/
def paths : Command → List String
  | .eval options => options.path :: options.logFile.toList
  | .vendor path _ => [path]
  | .checkName _ | .config => []

/-- Rejects paths with a character that no path can have. -/
def checkPaths (command : Command) : Except Error Unit :=
  if command.paths.any fun path => path.toList.contains (Char.ofNat 0) then .error .nullInPath
  else .ok ()

/-- Runs a command whose paths are fine. -/
def perform (settings : Settings) (files : Files) : Command → CommandOutcome
  | .eval options => runEval settings files options
  | .checkName name => .ofResult files "" (checkedName name)
  | .vendor path function => .ofResult files "" (runVendor settings files path function)
  | .config => .ofResult files "" (.ok (CommandOutcome.unlines (configLines settings)))

/-- Runs a command. -/
def run (settings : Settings) (files : Files) (command : Command) : CommandOutcome :=
  match command.checkPaths with
  | .error failure => .ofResult files "" (.error (.escaped failure ""))
  | .ok () => command.perform settings files

/-- Runs a command line. -/
def runLine (settings : Settings) (files : Files) (words : List String) : CommandOutcome :=
  match read words with
  | .ok command => command.run settings files
  | .error problem => .ofUsageError files problem

end Command

end ExternalRepos

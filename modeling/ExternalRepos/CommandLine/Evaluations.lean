import ExternalRepos.Grid
import ExternalRepos.JsonValue.Written
import ExternalRepos.Session.Run
import ExternalRepos.Text.Markup

/-!
# Evaluating the extensions of a file

The extensions of a file are evaluated in order, up to the first that fails.
Their results are shown by the name of the extension, either as one JSON
document or as one table for each; of several extensions of one name the last
result is shown, in the place of the first.
-/

namespace ExternalRepos

/-- What the evaluations of some extensions gave. -/
structure Evaluations where
  /-- The results by the name of the extension, in the order of the evaluations. -/
  results : List (String × EvaluationResult)
  /-- The error that ended them. -/
  failure : Option Error
  deriving Inhabited

namespace Evaluations

/-- The evaluation of an extension for a module, with nothing else asked for. -/
def request (module name : String) : Evaluation where
  module := module
  name := name
  scope := ⟨.root, .empty⟩
  forward := none
  version := none
  recording := none
  context := "ctx"
  registry := "reg"

/-- Evaluates extensions in order, up to the first that fails. -/
def run (environment : Environment) (module : String) :
    List (String × List Step) → Store → Evaluations
  | [], _ => ⟨[], none⟩
  | (name, body) :: rest, store =>
      let (ran, result) := (request module name).run environment.settings .schema [] store
        fun entered => Step.runBody environment body entered
      match result with
      | .error failure => ⟨[], some failure⟩
      | .ok result =>
          let later := run environment module rest ran.store
          { later with results := (name, result) :: later.results }

/-- The results that are shown. -/
def shown (evaluations : Evaluations) : OrderedMap EvaluationResult :=
  OrderedMap.ofList evaluations.results

/-- The events of all results, in order. -/
def events (evaluations : Evaluations) : List Event :=
  evaluations.results.flatMap fun entry => entry.2.events

end Evaluations

namespace EvaluationResult

/-- The serial form of a result. -/
def toValue (result : EvaluationResult) : Value :=
  .dict (Value.ofTextEntries [
    ("prefix", .text result.repoPrefix),
    ("repos", .dict (Value.ofTextEntries
      (result.repos.mapValues fun _ specification => specification.toValue).entries))])

/-- The title of the table of a result. -/
def tableTitle (result : EvaluationResult) : String :=
  result.id ++ " (" ++ toString result.repos.size ++ " repos)"

/-- The row about a repository: its names, a summary, and the file that defines its rule. -/
def tableRow (result : EvaluationResult) (name : String) (specification : Specification) :
    Vector String 4 :=
  #v[name, result.canonicalName name, specification.describe none, specification.bzlFile]

/-- The columns of tables; the names of repositories are never wrapped. -/
def tableColumns : Vector Column 4 :=
  #v[⟨"Name", false⟩, ⟨"Canonical name", false⟩, ⟨"Rule", true⟩, ⟨"Defined in", true⟩]

/-- The table of a result; only its title is taken for markup. -/
def table (result : EvaluationResult) : Grid 4 where
  title := Text.plainText result.tableTitle
  columns := tableColumns
  rows := result.repos.entries.map fun entry =>
    (result.tableRow entry.1 entry.2).map fun cell => Text.plainText (Text.escapeMarkup cell)

/-- What is printed of the tables of results, up to the first whose title is no markup. -/
def printTables : List EvaluationResult → String × Option Error
  | [] => ("", none)
  | result :: rest =>
      if Text.tagsMatch result.tableTitle then
        let later := printTables rest
        (result.table.written ++ later.1, later.2)
      else
        ("", some (.unmatchedTag result.tableTitle))

end EvaluationResult

namespace Evaluations

/-- The results that are shown as one value. -/
def payload (evaluations : Evaluations) : Value :=
  .dict (Value.ofTextEntries
    (evaluations.shown.mapValues fun _ result => result.toValue).entries)

/-- The results as one JSON document, closed by a line feed. -/
def json (evaluations : Evaluations) : Except Error String :=
  (JsonValue.ofValue evaluations.payload).map fun document => document.written ++ "\n"

/-- What is printed of the tables, and the error that ends it. -/
def printed (evaluations : Evaluations) : String × Option Error :=
  EvaluationResult.printTables (evaluations.shown.entries.map Prod.snd)

end Evaluations

end ExternalRepos

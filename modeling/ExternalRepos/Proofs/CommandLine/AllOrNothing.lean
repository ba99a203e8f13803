import ExternalRepos.Proofs.CommandLine.Evaluations
import ExternalRepos.Proofs.Session.Serial

/-!
# All or nothing

The extensions of a file are evaluated one after the other, each in the store that the
one before it has left (`Evaluations.Yields`). Either all of them are, or there is a
first one that fails, and what comes after it plays no part (`Evaluations.FailsAfter`,
`FailsAfter.run_eq`). Nothing is printed before this is settled: standard output has the
results of all extensions that were selected, or nothing but one line about the failure,
and standard error has the events of those that were evaluated in either case
(`Command.eval_all_or_nothing`).

A document is always printed as a whole if the rules of the file have proper defaults.
Tables are printed as a whole if all their titles can be read.
-/

namespace ExternalRepos

namespace EvaluationResult

theorem isJsonData_toValue {result : EvaluationResult}
    (each : ∀ entry ∈ result.repos.entries, entry.2.toValue.IsJsonData) :
    result.toValue.IsJsonData := by
  apply Value.isJsonData_dict
  intro field fieldMem
  simp only [List.mem_cons, List.not_mem_nil, or_false] at fieldMem
  rcases fieldMem with rfl | rfl
  · exact Value.isJsonData_text _
  · apply Value.isJsonData_dict
    intro binding bindingMem
    rcases List.mem_map.1 bindingMem with ⟨entry, entryMem, rfl⟩
    exact each entry entryMem

/-- Tables whose titles can be read are printed before the others. -/
theorem printTables_append {earlier : List EvaluationResult}
    (readable : ∀ result ∈ earlier, Text.tagsMatch result.tableTitle = true)
    (others : List EvaluationResult) :
    printTables (earlier ++ others) =
      (String.join (earlier.map fun result => result.table.written) ++ (printTables others).1,
        (printTables others).2) := by
  induction earlier with
  | nil => simp
  | cons result rest ih =>
      rcases List.forall_mem_cons.1 readable with ⟨first, later⟩
      rw [List.cons_append, printTables, if_pos first, ih later]
      simp [String.append_assoc]

end EvaluationResult

namespace Evaluations

variable {environment : Environment} {module : String} {extension : String × List Step}
  {extensions : List (String × List Step)} {store reached : Store}
  {results : List (String × EvaluationResult)} {failure : Error}

/-! ## One extension after the other -/

/-- The store that an extension leaves, and what its evaluation gives or fails with. -/
def attempt (environment : Environment) (module : String) (extension : String × List Step)
    (store : Store) : Store × Except Error EvaluationResult :=
  let (ran, result) := (request module extension.1).run environment.settings .schema [] store
    fun entered => Step.runBody environment extension.2 entered
  (ran.store, result)

/-- All of some extensions are evaluated in order; their results, and the store that they leave. -/
inductive Yields (environment : Environment) (module : String) :
    List (String × List Step) → Store → List (String × EvaluationResult) → Store → Prop
  | nil (store : Store) : Yields environment module [] store [] store
  | cons {extension : String × List Step} {rest : List (String × List Step)}
      {store left reached : Store} {result : EvaluationResult}
      {results : List (String × EvaluationResult)}
      (given : attempt environment module extension store = (left, .ok result))
      (others : Yields environment module rest left results reached) :
      Yields environment module (extension :: rest) store ((extension.1, result) :: results) reached

/-- Some extensions are evaluated, and the next one fails; others may come after it. -/
def FailsAfter (environment : Environment) (module : String)
    (extensions : List (String × List Step)) (store : Store)
    (results : List (String × EvaluationResult)) (failure : Error) : Prop :=
  ∃ before extension later reached, extensions = before ++ extension :: later ∧
    Yields environment module before store results reached ∧
    (attempt environment module extension reached).2 = .error failure

/-- Evaluations with the results of earlier ones before theirs. -/
def afterResults (results : List (String × EvaluationResult)) (later : Evaluations) :
    Evaluations :=
  ⟨results ++ later.results, later.failure⟩

theorem run_cons (environment : Environment) (module : String) (extension : String × List Step)
    (later : List (String × List Step)) (store : Store) :
    run environment module (extension :: later) store =
      match attempt environment module extension store with
      | (_, .error failure) => ⟨[], some failure⟩
      | (left, .ok result) =>
          afterResults [(extension.1, result)] (run environment module later left) := by
  rcases extension with ⟨name, body⟩
  simp only [run, attempt]
  rcases (request module name).run environment.settings .schema [] store
    (fun entered => Step.runBody environment body entered) with ⟨ran, failure | result⟩
  · rfl
  · rfl

/-- Extensions that are evaluated put their results before those of the others. -/
theorem Yields.run_append (yields : Yields environment module extensions store results reached)
    (later : List (String × List Step)) :
    run environment module (extensions ++ later) store =
      afterResults results (run environment module later reached) := by
  induction yields with
  | nil => rfl
  | cons given others ih =>
      rw [List.cons_append, run_cons, given]
      simp only [ih]
      rfl

theorem Yields.run_eq (yields : Yields environment module extensions store results reached) :
    run environment module extensions store = ⟨results, none⟩ := by
  simpa [run, afterResults] using yields.run_append []

/-- The first failure ends the evaluations: what comes after it is not run. -/
theorem FailsAfter.run_eq (fails : FailsAfter environment module extensions store results failure) :
    run environment module extensions store = ⟨results, some failure⟩ := by
  rcases fails with ⟨before, extension, later, reached, rfl, yields, failed⟩
  rw [yields.run_append, run_cons]
  rcases attempted : attempt environment module extension reached with ⟨left, outcome⟩
  rw [attempted] at failed
  cases failed
  simp only [afterResults, List.append_nil]

/-- All extensions are evaluated, or there is a first one that fails. -/
theorem yields_or_failsAfter (environment : Environment) (module : String)
    (extensions : List (String × List Step)) (store : Store) :
    (∃ results reached, Yields environment module extensions store results reached) ∨
      ∃ results failure, FailsAfter environment module extensions store results failure := by
  induction extensions generalizing store with
  | nil => exact Or.inl ⟨[], store, .nil store⟩
  | cons extension rest ih =>
      rcases attempted : attempt environment module extension store with ⟨left, failure | result⟩
      · refine Or.inr ⟨[], failure, [], extension, rest, store, rfl, .nil store, ?_⟩
        rw [attempted]
      · rcases ih left with ⟨results, reached, yields⟩ | ⟨results, failure, fails⟩
        · exact Or.inl ⟨_, reached, .cons attempted yields⟩
        · rcases fails with ⟨before, next, later, reached, rfl, yields, failed⟩
          exact Or.inr ⟨_, failure, extension :: before, next, later, reached, rfl,
            .cons attempted yields, failed⟩

/-! ## Documents -/

/-- The results of extensions can be expressed in JSON, whatever the extensions do. -/
theorem Yields.isJsonData (yields : Yields environment module extensions store results reached)
    (proper : environment.HasProperDefaults) :
    ∀ entry ∈ results, entry.2.toValue.IsJsonData := by
  induction yields with
  | nil => simp
  | cons given others ih =>
      refine List.forall_mem_cons.2 ⟨?_, ih⟩
      apply EvaluationResult.isJsonData_toValue
      have named : RepositoryName.create PackageId.root.repository.name = .ok .main := rfl
      exact Evaluation.isJsonData_of_run proper named
        (fun entered => (Step.reaches_run_and_runBody environment).2 _ entered)
        (congrArg Prod.snd given)

theorem isJsonData_payload {evaluations : Evaluations}
    (each : ∀ entry ∈ evaluations.results, entry.2.toValue.IsJsonData) :
    evaluations.payload.IsJsonData := by
  apply Value.isJsonData_dict
  intro binding bindingMem
  rcases List.mem_map.1 bindingMem with ⟨entry, entryMem, rfl⟩
  exact each entry (mem_results_of_shown entryMem)

end Evaluations

/-! ## Both streams -/

namespace Command

open CommandOutcome (ended unlines)
open Evaluations (Yields FailsAfter)

/-- What standard error holds after some results: each of their events on a line. -/
def eventLines (results : List (String × EvaluationResult)) : String :=
  unlines ((Evaluations.events ⟨results, none⟩).map Event.written)

/-- The results that are shown of some: under every name the last one. -/
def shownResults (results : List (String × EvaluationResult)) : List EvaluationResult :=
  (Evaluations.shown ⟨results, none⟩).entries.map Prod.snd

/--
What can be seen of the command `eval` if some extensions of its file are selected: all
of their results, or none of them and one line about what went wrong.
-/
structure AllOrNothing (environment : Environment) (files : Files) (options : EvalOptions)
    (selected : List (String × List Step)) (outcome : CommandOutcome) : Prop where
  /-- Either all extensions are evaluated or there is a first one that fails. -/
  decided :
    (∃ results reached, Yields environment options.module selected .empty results reached) ∨
      ∃ results failure, FailsAfter environment options.module selected .empty results failure
  noneSelected : selected = [] →
    outcome = ended files 1
      (unlines ["[ERROR] No module extensions found in " ++ Path.normalize options.path]) "" none
  /-- The first failure is reported, after the events of the extensions before it. -/
  reported : ∀ results failure,
    FailsAfter environment options.module selected .empty results failure →
    failure.kind = .extensionEvaluation →
      outcome = ended files 1 (unlines ["[ERROR] " ++ failure.message]) (eventLines results) none
  /-- A failure of another kind escapes, and nothing is printed then. -/
  escaped : ∀ results failure,
    FailsAfter environment options.module selected .empty results failure →
    failure.kind ≠ .extensionEvaluation →
      outcome = ended files 1 "" (eventLines results) (some failure)
  /-- If all extensions are evaluated, the command succeeds unless some error escapes. -/
  evaluated : selected ≠ [] →
    ∀ results reached, Yields environment options.module selected .empty results reached →
      outcome.stderr = Text.withLineFeeds (eventLines results) ∧
        (outcome.exitCode = 0 ↔ outcome.escaped = none)
  /-- All results are printed in one document, after the events of all extensions. -/
  document : options.asJson = true → environment.HasProperDefaults → selected ≠ [] →
    ∀ results reached, Yields environment options.module selected .empty results reached →
      ∃ document, JsonValue.ofValue (Evaluations.payload ⟨results, none⟩) = .ok document ∧
        outcome = ended files 0 (document.written ++ "\n") (eventLines results) none
  /-- All results are printed as tables with readable titles, after the events. -/
  tables : options.asJson = false → selected ≠ [] →
    ∀ results reached, Yields environment options.module selected .empty results reached →
      (∀ result ∈ shownResults results, Text.tagsMatch result.tableTitle = true) →
        outcome = ended files 0
          (String.join ((shownResults results).map fun result => result.table.written))
          (eventLines results) none
  /-- A title that cannot be read is an error that escapes, after the tables before it. -/
  unreadable : options.asJson = false → selected ≠ [] →
    ∀ results reached, Yields environment options.module selected .empty results reached →
      ∀ earlier result others, shownResults results = earlier ++ result :: others →
        (∀ other ∈ earlier, Text.tagsMatch other.tableTitle = true) →
        Text.tagsMatch result.tableTitle = false →
          outcome = ended files 1
            (String.join (earlier.map fun other => other.table.written))
            (eventLines results) (some (.unmatchedTag result.tableTitle))

theorem printed_eq (results : List (String × EvaluationResult)) :
    Evaluations.printed ⟨results, none⟩ =
      EvaluationResult.printTables (shownResults results) := rfl

/-- If all extensions are evaluated, there is nothing to report. -/
theorem showEvaluations_of_evaluated (asJson : Bool)
    (results : List (String × EvaluationResult)) :
    (∃ output, showEvaluations asJson ⟨results, none⟩ = .ok output) ∨
      ∃ failure printed, showEvaluations asJson ⟨results, none⟩ =
        .error (.escaped failure printed) := by
  cases asJson with
  | true =>
      rcases json : Evaluations.json ⟨results, none⟩ with failure | output
      · exact Or.inr ⟨failure, "", by simp only [showEvaluations, if_true, json]; rfl⟩
      · exact Or.inl ⟨output, by simp only [showEvaluations, if_true, json]; rfl⟩
  | false =>
      rcases printed : Evaluations.printed ⟨results, none⟩ with ⟨output, _ | failure⟩
      · exact Or.inl ⟨output, by simp only [showEvaluations, printed]; rfl⟩
      · exact Or.inr ⟨failure, output, by simp only [showEvaluations, printed]; rfl⟩

theorem load_of_definitionFile {files : Files} {path : String} {file : DefinitionFile}
    (found : files.definitionFile path = .ok (some file))
    (ending : Path.hasEnding definitionEnding (Path.normalize path) = true) :
    load files path = .ok file := by
  simp only [load, found, ending, if_true]

/-- A command opens its log, and finds a file to evaluate. -/
structure Reads (options : EvalOptions) (given files : Files) (file : DefinitionFile) : Prop where
  plain : (Command.eval options).checkPaths = .ok ()
  opened : openLog options given = (files, .ok ())
  loaded : load files options.path = .ok file

namespace Reads

variable {options : EvalOptions} {given files : Files} {file : DefinitionFile}
  {results : List (String × EvaluationResult)} {reached : Store}

/-- If no extension is found, just this is reported. -/
theorem run_of_eq_nil (reads : Reads options given files file) (settings : Settings)
    (noExtension : select options.extension file.extensions = []) :
    (Command.eval options).run settings given =
      ended files 1
        (unlines ["[ERROR] No module extensions found in " ++ Path.normalize options.path])
        "" none := by
  simp only [run, reads.plain, perform, runEval, reads.opened, evaluateFile, reads.loaded,
    noExtension]
  rfl

/-- If extensions are found, what is seen is how their evaluations went. -/
theorem run_of_ne_nil (reads : Reads options given files file) (settings : Settings)
    (found : select options.extension file.extensions ≠ []) :
    let evaluations := Evaluations.run ⟨settings, file.rules⟩ options.module
      (select options.extension file.extensions) .empty
    (Command.eval options).run settings given =
      .ofResult files (unlines (evaluations.events.map Event.written))
        (showEvaluations options.asJson evaluations) := by
  simp only [run, reads.plain, perform, runEval, reads.opened, evaluateFile, reads.loaded]

theorem run_of_yields (reads : Reads options given files file) (settings : Settings)
    (found : select options.extension file.extensions ≠ [])
    (yields : Yields ⟨settings, file.rules⟩ options.module
      (select options.extension file.extensions) .empty results reached) :
    (Command.eval options).run settings given =
      .ofResult files (eventLines results) (showEvaluations options.asJson ⟨results, none⟩) := by
  rw [reads.run_of_ne_nil settings found, yields.run_eq]
  rfl

/-- What is seen is settled by the first failure. -/
theorem run_of_failsAfter (reads : Reads options given files file) (settings : Settings)
    {failure : Error} (fails : FailsAfter ⟨settings, file.rules⟩ options.module
      (select options.extension file.extensions) .empty results failure) :
    (Command.eval options).run settings given =
      .ofResult files (eventLines results)
        (showEvaluations options.asJson ⟨results, some failure⟩) := by
  have found : select options.extension file.extensions ≠ [] := by
    rcases fails with ⟨before, extension, later, reached, split, _⟩
    simp [split]
  rw [reads.run_of_ne_nil settings found, fails.run_eq]
  rfl

end Reads

/--
The command `eval` prints all or nothing. For every file, module and name of extensions,
and whatever the extensions do: if one of those selected fails, the first of them is
reported on one line, no result is printed, the events of those before it are on standard
error, and those after it play no part. If all are evaluated, all their events are there,
and what is shown of them is printed as a whole. Only a title that is no markup can keep
the command from this, or a default that does not fit its attribute.
-/
theorem eval_all_or_nothing (settings : Settings) {given files : Files} {options : EvalOptions}
    {file : DefinitionFile} (reads : Reads options given files file) :
    AllOrNothing ⟨settings, file.rules⟩ files options
      (select options.extension file.extensions) ((Command.eval options).run settings given) := by
  constructor
  case decided => exact Evaluations.yields_or_failsAfter _ _ _ _
  case noneSelected => exact reads.run_of_eq_nil settings
  case reported =>
    intro results failure fails kind
    rw [reads.run_of_failsAfter settings fails]
    simp only [showEvaluations, kind, if_true]
    rfl
  case escaped =>
    intro results failure fails kind
    rw [reads.run_of_failsAfter settings fails]
    simp only [showEvaluations, kind, if_false]
    rfl
  case evaluated =>
    intro found results reached yields
    rw [reads.run_of_yields settings found yields]
    rcases showEvaluations_of_evaluated options.asJson results with
      ⟨output, shown⟩ | ⟨failure, printed, shown⟩
    · rw [shown]
      exact ⟨rfl, by simp [CommandOutcome.ofResult, ended]⟩
    · rw [shown]
      exact ⟨rfl, by simp [CommandOutcome.ofResult, ended]⟩
  case document =>
    intro asJson proper found results reached yields
    have json : (Evaluations.payload ⟨results, none⟩).IsJsonData :=
      Evaluations.isJsonData_payload (yields.isJsonData proper)
    rcases JsonValue.exists_ofValue json with ⟨document, documentEq⟩
    refine ⟨document, documentEq, ?_⟩
    rw [reads.run_of_yields settings found yields]
    simp only [showEvaluations, asJson, if_true, Evaluations.json, documentEq]
    rfl
  case tables =>
    intro asTables found results reached yields readable
    have printed : Evaluations.printed ⟨results, none⟩ =
        (String.join ((shownResults results).map fun result => result.table.written), none) := by
      rw [printed_eq]
      simpa [EvaluationResult.printTables] using EvaluationResult.printTables_append readable []
    rw [reads.run_of_yields settings found yields]
    simp only [showEvaluations, asTables, printed]
    rfl
  case unreadable =>
    intro asTables found results reached yields earlier result others split readable unread
    have printed : Evaluations.printed ⟨results, none⟩ =
        (String.join (earlier.map fun other => other.table.written),
          some (.unmatchedTag result.tableTitle)) := by
      rw [printed_eq, split, EvaluationResult.printTables_append readable,
        EvaluationResult.printTables, unread]
      simp
    rw [reads.run_of_yields settings found yields]
    simp only [showEvaluations, asTables, printed]
    rfl

/-- The second of three extensions fails, so only the events of the first one are left. -/
theorem eval_all_or_nothing_of_conflict :
    let declare (name : String) : Step :=
      .call "reg" "ctx" "archive" [("name", .literal (.text name))] .builtin
    let note (message : String) : Step := .post "events" "info" message none
    let file : DefinitionFile :=
      ⟨.ofList [("archive", ⟨"archive", default, [], "", by decide⟩)],
        .ofList [("left", .extension "deps" [note "ready", declare "a"]),
          ("middle", .extension "tools" [note "begun", declare "b", declare "b"]),
          ("right", .extension "rest" [note "never"])]⟩
    let given : Files := ⟨[(["ext.py".toList], .regular file)]⟩
    let options : EvalOptions := ⟨"ext.py", "_main", "", true, none⟩
    let outcome := (Command.eval options).run .default given
    Reads options given given file ∧
    AllOrNothing ⟨.default, file.rules⟩ given options (select "" file.extensions) outcome ∧
    outcome.exitCode = 1 ∧
    outcome.stdout = "[ERROR] error evaluating module extension _main%tools: " ++
      "A repo named b is already generated by this module extension at <builtin>\n" ∧
    outcome.stderr = "INFO: ready\n" := by
  intro declare note file given options outcome
  have ending : Path.hasEnding definitionEnding (Path.normalize "ext.py") = true := rfl
  have found : given.definitionFile "ext.py" = .ok (some file) := rfl
  have reads : Reads options given given file := by
    constructor
    case plain => exact if_neg (by decide +kernel)
    case opened => rfl
    case loaded => exact load_of_definitionFile found ending
  refine ⟨reads, eval_all_or_nothing .default reads, ?_⟩
  decide +kernel

end Command

end ExternalRepos

import ExternalRepos.Proofs.Registry.Stored
import ExternalRepos.Proofs.Session.Program

/-!
# Evaluations as data

If every rule has proper defaults, the schema materializer stores nothing that JSON
cannot express. A registry that it fills stays so through every operation that declares
a repository of such a rule (`Registry.IsSerial.perform`), and so do all the registries
that a run fills. Steps can name the rules of their environment only, so what an
evaluation of steps gives can be expressed in JSON, whatever the steps are
(`Evaluation.isJsonData_of_run`).
-/

namespace ExternalRepos

/-- The type of every attribute of a rule accepts the default of the attribute. -/
def RuleClass.HasProperDefaults (ruleClass : RuleClass) : Prop :=
  ∀ schema ∈ ruleClass.attributes, schema.HasProperDefault

/-- All rules that programs can name have proper defaults. -/
def Environment.HasProperDefaults (environment : Environment) : Prop :=
  ∀ rule ruleClass, environment.rules.get? rule = some ruleClass → ruleClass.HasProperDefaults

/-- The schema materializer fills a registry, and so far with what JSON can express. -/
structure Registry.IsSerial (registry : Registry) : Prop where
  bySchema : registry.materializer = .schema
  /-- Labels are resolved from a repository that has a proper name. -/
  named : ∃ repository, RepositoryName.create registry.scope.base.repository.name = .ok repository
  each : ∀ entry ∈ registry.declarations.entries,
    entry.2.specification.toValue.IsJsonData

namespace Registry.IsSerial

variable {registry : Registry} {settings : Settings} {store : Store} {reference : Reference}

/-- What is added by a declaration can be expressed because its rule has proper defaults. -/
theorem perform (serial : registry.IsSerial)
    (present : store.registries.get? reference = some registry) {operation : Store.Operation}
    (proper : ∀ ruleClass, operation.ruleClass? = some ruleClass → ruleClass.HasProperDefaults) :
    ∃ later, (operation.perform settings store).1.registries.get? reference = some later ∧
      later.IsSerial := by
  rcases Store.Operation.exists_extends_perform settings present operation with
    ⟨later, laterPresent, extension⟩
  refine ⟨later, laterPresent, ?_⟩
  rcases serial with ⟨bySchema, ⟨repository, named⟩, each⟩
  refine ⟨by rw [extension.materializer_eq, bySchema],
    ⟨repository, by rw [extension.scope_eq, named]⟩, ?_⟩
  rw [extension.entries]
  refine List.forall_mem_append.2 ⟨each, fun entry entryMem => ?_⟩
  rcases Store.Operation.of_mem_accepted entryMem with ⟨values, targeted, _, declared⟩
  rcases Store.Operation.exists_ruleClass_of_target? targeted with ⟨ruleClass, classed⟩
  rcases Store.Operation.exists_declare_of_perform targeted classed present declared with
    ⟨version, outcome⟩
  exact ((stores_of_declare bySchema named outcome).serial (proper ruleClass classed)).1

theorem runAll (serial : registry.IsSerial)
    (present : store.registries.get? reference = some registry) {operations : List Store.Operation}
    (proper : ∀ operation ∈ operations, ∀ ruleClass, operation.ruleClass? = some ruleClass →
      ruleClass.HasProperDefaults) :
    ∃ later,
      (Store.Operation.runAll settings operations store).registries.get? reference = some later ∧
      later.IsSerial := by
  induction operations generalizing store registry with
  | nil => exact ⟨registry, present, serial⟩
  | cons operation rest ih =>
      rcases List.forall_mem_cons.1 proper with ⟨first, others⟩
      rcases serial.perform present first with ⟨middle, middlePresent, middleSerial⟩
      exact ih middleSerial middlePresent others

theorem reaches {environment : Environment} {after : Store} (serial : registry.IsSerial)
    (present : store.registries.get? reference = some registry)
    (proper : environment.HasProperDefaults) (reached : store.Reaches environment after) :
    ∃ later, after.registries.get? reference = some later ∧ later.IsSerial := by
  rcases reached.byOperations with ⟨operations, known, rfl⟩
  apply serial.runAll present
  intro operation operationMem ruleClass declares
  rcases known operation operationMem ruleClass declares with ⟨rule, found⟩
  exact proper rule ruleClass found

/-- What is extracted can be expressed. -/
theorem isJsonData_of_mem_extract (serial : registry.IsSerial) {entry : String × Specification}
    (entryMem : entry ∈ registry.extract.entries) : entry.2.toValue.IsJsonData := by
  rcases List.mem_map.1 entryMem with ⟨declaration, declarationMem, rfl⟩
  exact serial.each declaration declarationMem

end Registry.IsSerial

namespace Evaluation

variable {evaluation : Evaluation} {environment : Environment} {forwards : List Reference}
  {store : Store} {implementation : Store → Outcome} {result : EvaluationResult}
  {repository : RepositoryName}

/-- An evaluation under the schema materializer begins with a registry that is empty. -/
theorem isSerial_enter (settings : Settings) (forwards : List Reference) (store : Store)
    (named : RepositoryName.create evaluation.scope.base.repository.name = .ok repository) :
    let entered := evaluation.enter settings .schema forwards store
    ∃ registry, entered.store.registries.get? entered.registry = some registry ∧
      registry.IsSerial := by
  intro entered
  have present : entered.store.registries.get? entered.registry = _ :=
    Table.get?_add_next store.registries evaluation.registry _
  exact ⟨_, present, rfl, ⟨repository, named⟩, fun _ entryMem => absurd entryMem List.not_mem_nil⟩

/-- Whatever an implementation does, its evaluation gives what JSON can express. -/
theorem isJsonData_of_run (proper : environment.HasProperDefaults)
    (named : RepositoryName.create evaluation.scope.base.repository.name = .ok repository)
    (reaches : ∀ entered : Store, entered.Reaches environment (implementation entered).store)
    (succeeded : (evaluation.run environment.settings .schema forwards store implementation).2 =
      .ok result) :
    ∀ entry ∈ result.repos.entries, entry.2.toValue.IsJsonData := by
  rcases evaluation.isSerial_enter environment.settings forwards store named with
    ⟨registry, present, serial⟩
  rcases serial.reaches present proper (reaches _) with ⟨later, laterPresent, laterSerial⟩
  have repos : result.repos = later.extract := by
    simp only [run, conclude] at succeeded
    split at succeeded
    · cases succeeded
    · cases succeeded
      simp only [Evaluation.result, laterPresent, Option.map_some, Option.getD_some]
  rw [repos]
  exact fun entry entryMem => laterSerial.isJsonData_of_mem_extract entryMem

end Evaluation

end ExternalRepos

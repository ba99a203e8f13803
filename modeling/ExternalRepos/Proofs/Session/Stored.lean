import ExternalRepos.Proofs.Registry.Stored
import ExternalRepos.Proofs.Session.Declared

/-!
# Stored specifications along a run

A registry is set up once: its scope and its materializer never change. So what a
declaration under the schema materializer stores at any moment of a run is what
the rule class makes of the keywords in that one scope. Every specification that
is found in the registry later on was declared at some moment
(`stores_recorded`), and its values can be declared again under another name as
long as the registry is open (`perform_reused`).
-/

namespace ExternalRepos

/--
Every specification in a registry with the schema materializer was declared by one
operation of the run, and stores the values of that call well typed and frozen.
-/
theorem Registry.stores_recorded (settings : Settings) (store : Store) (id repoPrefix : String)
    (scope : Scope) (directories : Directories) (handler : Reference) (recorder : Option String)
    {repository : RepositoryName}
    (proper : RepositoryName.create scope.base.repository.name = .ok repository)
    (operations : List Store.Operation) :
    let reference := store.registries.next id
    let created := store.addRegistry id repoPrefix scope directories handler .schema recorder
    ∃ registry,
      (Store.Operation.runAll settings operations created).registries.get? reference =
        some registry ∧
      ∀ name specification, registry.extract.get? name = some specification →
        ∃ earlier operation later values location ruleClass,
          operations = earlier ++ operation :: later ∧
          operation.target? (Store.Operation.runAll settings earlier created) =
            some (reference, values, location) ∧
          operation.ruleClass? = some ruleClass ∧
          values.get? "name" = some (.text name) ∧
          (operation.perform settings (Store.Operation.runAll settings earlier created)).2 =
            .ok (.declared specification) ∧
          ruleClass.Stores scope values specification := by
  intro reference created
  have present : created.registries.get? reference = _ := Table.get?_add_next store.registries id _
  rcases Store.Operation.exists_extends_runAll settings present operations with
    ⟨registry, registryPresent, extension⟩
  refine ⟨registry, registryPresent, ?_⟩
  intro name specification found
  rw [Registry.extract, OrderedMap.get?_mapValues, Option.map_eq_some_iff] at found
  rcases found with ⟨declaration, bound, rfl⟩
  have logged : (name, declaration) ∈
      Store.Operation.acceptedBy settings reference operations created := by
    have entries : registry.declarations.entries =
        Store.Operation.acceptedBy settings reference operations created := extension.entries
    rw [OrderedMap.get?_eq_some_iff, entries] at bound
    exact bound
  rcases Store.Operation.exists_of_mem_acceptedBy logged with
    ⟨earlier, operation, later, split, added⟩
  rcases Store.Operation.of_mem_accepted added with ⟨values, targeted, named, declared⟩
  rcases Store.Operation.exists_ruleClass_of_target? targeted with ⟨ruleClass, classed⟩
  rcases Store.Operation.exists_extends_runAll settings present earlier with
    ⟨midway, midwayPresent, before⟩
  rcases Store.Operation.exists_declare_of_perform targeted classed midwayPresent declared with
    ⟨version, outcome⟩
  -- the registry of that moment is set up like the new one, whatever happened in between
  have sameScope : midway.scope = scope := before.scope_eq
  have bySchema : midway.materializer = .schema := before.materializer_eq
  rw [← sameScope] at proper ⊢
  exact ⟨earlier, operation, later, values, _, ruleClass, split, targeted, classed, named, declared,
    stores_of_declare bySchema proper outcome⟩

/-- A label that is resolved, one that nobody gives, and a default. -/
theorem Registry.stores_recorded_of_labels :
    let scope : Scope := ⟨.root, .empty⟩
    let ruleClass : RuleClass :=
      ⟨"archive", default,
        [⟨"deps", .labelList, .null, true, none, ""⟩, ⟨"patch", .label, .null, false, none, ""⟩,
          ⟨"build", .label, .text ":b", false, none, ""⟩], "", by decide⟩
    let values : OrderedMap Value :=
      .ofList [("deps", .list [.text "x"]), ("name", .text "tool"), ("build", .null),
        ("patch", .null)]
    let stored : OrderedMap Value :=
      .ofList [("deps", .tuple [.text "@@//:x"]), ("build", .text "@@//:b"), ("patch", .null)]
    let specification : Specification := ⟨ruleClass.definition.canonicalForm, "archive", stored⟩
    let reference := Store.empty.registries.next "r"
    let operation : Store.Operation := .declare reference values ruleClass .builtin none
    let created := Store.empty.addRegistry "r" "ext+" scope default default .schema none
    RepositoryName.create scope.base.repository.name = .ok .main ∧
    ∃ registry,
      (Store.Operation.runAll .default [operation] created).registries.get? reference =
        some registry ∧
      registry.extract.get? "tool" = some specification ∧
      ruleClass.Stores scope values specification := by
  intro scope ruleClass values stored specification reference operation created
  have proper : RepositoryName.create scope.base.repository.name = .ok .main := rfl
  have shown : ((Store.Operation.runAll .default [operation] created).registries.get? reference).map
      (fun registry => registry.extract.get? "tool") = some (some specification) := rfl
  rcases Registry.stores_recorded .default .empty "r" "ext+" scope default default none proper
    [operation] with ⟨registry, present, recorded⟩
  rw [present, Option.map_some, Option.some.injEq] at shown
  refine ⟨proper, registry, present, shown, ?_⟩
  rcases recorded "tool" specification shown with
    ⟨earlier, declaration, later, given, location, declared, split, targeted, classed, _, _, stores⟩
  rcases earlier with _ | ⟨first, rest⟩
  · cases split
    cases targeted
    cases classed
    exact stores
  · rcases rest with _ | ⟨_, _⟩ <;> cases split

namespace Store.Operation

/--
The stored values of a specification, declared again in the same registry under
the same rule class, give that specification: at any later moment at which the
registry is open, and under any name that is allowed and new.
-/
theorem perform_reused {settings : Settings} {store : Store} {reference : Reference}
    {registry later : Registry} {repository : RepositoryName} {ruleClass : RuleClass}
    {first again : Operation} {values reused : OrderedMap Value} {location againLocation : Location}
    {specification : Specification} {name : String} {operations : List Operation}
    (present : store.registries.get? reference = some registry)
    (bySchema : registry.materializer = .schema)
    (proper : RepositoryName.create registry.scope.base.repository.name = .ok repository)
    (targeted : first.target? store = some (reference, values, location))
    (classed : first.ruleClass? = some ruleClass)
    (properDefaults : ∀ schema ∈ ruleClass.attributes, schema.HasProperDefault)
    (declared : (first.perform settings store).2 = .ok (.declared specification))
    (laterPresent : (runAll settings (first :: operations) store).registries.get? reference =
      some later)
    (isOpen : later.isSealed = false) (allowed : isUserProvided name = true)
    (fresh : name ∉ later.names) (named : reused.get? "name" = some (.text name))
    (stored : reused.erase "name" = specification.attributes)
    (againTargeted : again.target? (runAll settings (first :: operations) store) =
      some (reference, reused, againLocation))
    (againClassed : again.ruleClass? = some ruleClass) (againAllowed : again.KeywordsAllowed) :
    (again.perform settings (runAll settings (first :: operations) store)).2 =
      .ok (.declared specification) := by
  rcases exists_declare_of_perform targeted classed present declared with ⟨version, outcome⟩
  rcases exists_extends_runAll settings present (first :: operations) with
    ⟨reached, reachedPresent, extension⟩
  rw [laterPresent] at reachedPresent
  cases reachedPresent
  have newName : later.newName reused = .ok name :=
    Registry.newName_eq_ok_iff.2 ⟨isOpen, named, allowed, OrderedMap.get?_eq_none_iff.2 fresh⟩
  rcases perform_of_target? againTargeted againClassed againAllowed laterPresent with
    ⟨againVersion, answered⟩
  have outcomeAgain := Registry.declare_reused bySchema proper properDefaults outcome
    extension.scope_eq extension.materializer_eq newName stored againLocation againVersion
  rw [answered, outcomeAgain]
  rfl

/-- A tuple of labels, a mapping and a label that is null, each declared again as it is stored. -/
theorem perform_reused_of_containers :
    let ruleClass : RuleClass :=
      ⟨"archive", default,
        [⟨"deps", .labelList, .null, true, none, ""⟩, ⟨"patch", .label, .null, false, none, ""⟩,
          ⟨"env", .stringDict, .dict [], false, none, ""⟩], "", by decide⟩
    let values : OrderedMap Value :=
      .ofList [("env", .dict [(.text "A", .text "1")]), ("deps", .list [.text "x"]),
        ("name", .text "tool"), ("patch", .null)]
    let reused : OrderedMap Value :=
      .ofList [("name", .text "copy"), ("env", .map [(.text "A", .text "1")]),
        ("deps", .tuple [.text "@@//:x"]), ("patch", .null)]
    let reference := Store.empty.registries.next "r"
    let created :=
      Store.empty.addRegistry "r" "ext+" ⟨.root, .empty⟩ default default .schema none
    let first : Operation := .declare reference values ruleClass .builtin none
    let again : Operation := .declare reference reused ruleClass .builtin none
    let specification : Specification :=
      ⟨ruleClass.definition.canonicalForm, "archive", reused.erase "name"⟩
    (first.perform .default created).2 = .ok (.declared specification) ∧
    (again.perform .default (runAll .default [first, first] created)).2 =
      .ok (.declared specification) := by
  intro ruleClass values reused reference created first again specification
  have declared : (first.perform .default created).2 = .ok (.declared specification) := rfl
  have proper : RepositoryName.create PackageId.root.repository.name = .ok .main := rfl
  have properDefaults : ∀ schema ∈ ruleClass.attributes, schema.HasProperDefault := by
    simp [ruleClass, Attribute.HasProperDefault, AttributeType.accepts,
      AttributeType.isTextMapping, Value.entries?]
  refine ⟨declared, ?_⟩
  exact perform_reused rfl rfl proper rfl rfl properDefaults declared rfl rfl rfl (by decide) rfl
    rfl rfl rfl trivial

end Store.Operation

end ExternalRepos

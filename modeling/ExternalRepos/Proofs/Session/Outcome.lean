import ExternalRepos.Proofs.Registry.Outcome
import ExternalRepos.Proofs.Session.Declared

/-!
# The outcome of a declaration in a session

The registry that a declaration reaches is the log of what has been declared there
before, so a conflict is about the history of the session: there is one exactly if an
earlier operation has declared the name successfully, and it quotes the location which
that operation gave. Operations that failed are not in the log, and later ones are not
there yet.
-/

namespace ExternalRepos

namespace Registry.Extends

variable {registry later : Registry} {log : List (String × Declaration)}

/-- What the materializer is asked does not depend on what has been declared. -/
theorem request_eq (extension : registry.Extends log later) :
    later.request = registry.request := by
  rw [← extension.setup]
  rfl

end Registry.Extends

namespace Store.Operation

/-- One of the operations of a run has declared a name in a registry, from a location. -/
def HasDeclared (settings : Settings) (registry : Reference) (operations : List Operation)
    (store : Store) (name : String) (location : Location) : Prop :=
  ∃ earlier operation later values specification,
    operations = earlier ++ operation :: later ∧
    operation.target? (runAll settings earlier store) = some (registry, values, location) ∧
    values.get? "name" = some (.text name) ∧
    (operation.perform settings (runAll settings earlier store)).2 =
      .ok (.declared specification)

variable {settings : Settings} {store : Store} {operation : Operation} {reference : Reference}
  {operations : List Operation} {name : String} {location : Location}

theorem accepted_of_declared {values : OrderedMap Value} {specification : Specification}
    (targeted : operation.target? store = some (reference, values, location))
    (named : values.get? "name" = some (.text name))
    (declared : (operation.perform settings store).2 = .ok (.declared specification)) :
    operation.accepted settings reference store = [(name, ⟨specification, location⟩)] := by
  simp [accepted, targeted, declared, Registry.accepted, named, Value.text?, Except.toOption,
    Reply.specification?]

theorem mem_acceptedBy_of_mem_accepted {earlier later : List Operation}
    {entry : String × Declaration}
    (entryMem : entry ∈ operation.accepted settings reference (runAll settings earlier store)) :
    entry ∈ acceptedBy settings reference (earlier ++ operation :: later) store := by
  induction earlier generalizing store with
  | nil => exact List.mem_append_left _ entryMem
  | cons first rest ih => exact List.mem_append_right _ (ih entryMem)

/-- The log of a run consists of what its operations have declared. -/
theorem hasDeclared_iff :
    HasDeclared settings reference operations store name location ↔
      ∃ specification,
        (name, ⟨specification, location⟩) ∈ acceptedBy settings reference operations store := by
  constructor
  · rintro ⟨earlier, operation, later, values, specification, rfl, targeted, named, declared⟩
    refine ⟨specification, mem_acceptedBy_of_mem_accepted ?_⟩
    rw [accepted_of_declared targeted named declared]
    exact List.mem_singleton_self _
  · rintro ⟨specification, entryMem⟩
    rcases exists_of_mem_acceptedBy entryMem with ⟨earlier, operation, later, split, added⟩
    rcases of_mem_accepted added with ⟨values, targeted, named, declared⟩
    exact ⟨earlier, operation, later, values, specification, split, targeted, named, declared⟩

/-- What has been declared in a registry since it began is what it tells the locations of. -/
theorem hasDeclared_iff_locationOf {registry later : Registry}
    (began : registry.declarations = ∅)
    (extension : registry.Extends (acceptedBy settings reference operations store) later) :
    HasDeclared settings reference operations store name location ↔
      later.locationOf name = some location := by
  have entries : later.declarations.entries = acceptedBy settings reference operations store := by
    rw [extension.entries, began]
    rfl
  rw [hasDeclared_iff, ← entries, Registry.locationOf, Option.map_eq_some_iff]
  constructor
  · rintro ⟨specification, entryMem⟩
    exact ⟨_, OrderedMap.get?_eq_some_iff.2 entryMem, rfl⟩
  · rintro ⟨declaration, found, rfl⟩
    exact ⟨declaration.specification, OrderedMap.get?_eq_some_iff.1 found⟩

/--
Which outcome a declaration has, in any state that a registry with the schema
materializer can reach. It fails for the seal exactly if the registry is sealed. If it
is open, the declaration fails for the name exactly if the keywords choose none that
users may choose. If they do, there is a conflict exactly if an earlier operation has
declared that name, and it quotes the location of that operation. If none has, the
values are rejected exactly if the materializer fails under the prefixed name, with the
text of its error and with that error as the cause. Otherwise the declaration succeeds,
and the specification has the names of the rule class and of the file that defines it.
-/
theorem declare_decided (settings : Settings) (store : Store) (id repoPrefix : String)
    (scope : Scope) (directories : Directories) (handler : Reference) (recorder : Option String)
    (operations : List Operation) {ruleClass : RuleClass}
    (textDefaults : ∀ schema ∈ ruleClass.attributes, schema.HasTextDefault)
    (values : OrderedMap Value) (location : Location) (version : Option String) :
    let reference := store.registries.next id
    let created := store.addRegistry id repoPrefix scope directories handler .schema recorder
    let reached := runAll settings operations created
    let request (name : String) : Request :=
      ⟨scope, directories, settings.chooseVersion version, handler, Registry.callSite, ruleClass,
        values.mapValues fun key value =>
          if key = "name" then .text (repoPrefix ++ name) else value⟩
    ∃ registry, reached.registries.get? reference = some registry ∧
      Registry.Decides (registry.isSealed = true)
        (HasDeclared settings reference operations created)
        (fun name => (Materializer.schema (request name)).outcome) values ruleClass
        (reached.declare settings reference values ruleClass location version).2 := by
  intro reference created reached request
  have present : created.registries.get? reference = _ := Table.get?_add_next store.registries id _
  rcases exists_extends_runAll settings present operations with
    ⟨registry, registryPresent, extension⟩
  refine ⟨registry, registryPresent, ?_⟩
  have bySchema : registry.materializer = .schema := extension.materializer_eq
  have declared : HasDeclared settings reference operations created =
      fun name first => registry.locationOf name = some first := by
    funext name first
    exact propext (hasDeclared_iff_locationOf rfl extension)
  have requested : ∀ name, request name =
      registry.request name values ruleClass (settings.chooseVersion version) := by
    intro name
    rw [extension.request_eq]
    rfl
  have answers := Registry.declare_answers bySchema textDefaults values location
    (settings.chooseVersion version)
  rw [declare_of_get? registryPresent, declared]
  simp only [requested]
  refine answers.decides ?_
  intro name first second here there
  exact Option.some.inj (here.symm.trans there)

/-- A name that was declared once, attempted in vain, and declared again. -/
theorem declare_decided_of_conflict :
    let ruleClass : RuleClass :=
      ⟨"archive", default, [⟨"build", .label, .text "x.BUILD", false, none, ""⟩], "", by decide⟩
    let values (build : Value) : OrderedMap Value :=
      .ofList [("name", .text "tool"), ("build", build)]
    let reference := Store.empty.registries.next "r"
    let created := Store.empty.addRegistry "r" "ext+" ⟨.root, .empty⟩ default default .schema none
    let first : Location := ⟨"first.bzl", 1, 1⟩
    let attempt (build : Value) (location : Location) : Operation :=
      .declare reference (values build) ruleClass location none
    let operations := [attempt (.int 1) .builtin, attempt .null first]
    let reached := runAll .default operations created
    (∀ schema ∈ ruleClass.attributes, schema.HasTextDefault) ∧
    HasDeclared .default reference operations created "tool" first ∧
    (reached.declare .default reference (values .null) ruleClass .builtin none).2 =
      .error (.conflict "tool" first) := by
  intro ruleClass values reference created first attempt operations reached
  have textDefaults : ∀ schema ∈ ruleClass.attributes, schema.HasTextDefault := by
    simp only [ruleClass, List.forall_mem_cons]
    exact ⟨Or.inr ⟨"x.BUILD", rfl⟩, by simp⟩
  have declared : HasDeclared .default reference operations created "tool" first :=
    ⟨[attempt (.int 1) .builtin], attempt .null first, [], values .null, _, rfl, rfl, rfl, rfl⟩
  rcases declare_decided .default .empty "r" "ext+" ⟨.root, .empty⟩ default default none
    operations textDefaults (values .null) .builtin none with ⟨registry, present, decides⟩
  have isOpen : ¬registry.isSealed = true := by
    have unsealed : (reached.registries.get? reference).map Registry.isSealed = some false := rfl
    rw [present] at unsealed
    simpa using unsealed
  have chosen : Registry.Chooses (values .null) "tool" := ⟨rfl, by decide⟩
  exact ⟨textDefaults, declared,
    (decides.repositoryConflict "tool" first).2 ⟨isOpen, chosen, declared⟩⟩

end Store.Operation

end ExternalRepos

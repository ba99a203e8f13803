import ExternalRepos.Proofs.Session.Operation

/-!
# Registries along a run

Seen from one registry an operation is either nothing or one of the two things
that a registry knows: a declaration in it, whatever way it took, or its seal.
So the registry extends itself by what the operation is seen to have added
(`exists_extends_perform`), and along a run by what all operations have
(`exists_extends_runAll`). A registry that begins without declarations is
therefore the log of what has been declared in it, after every sequence of
operations (`holds_accepted`).
-/

namespace ExternalRepos

namespace Table

variable {α : Type}

theorem get?_next (table : Table α) (id : String) : table.get? (table.next id) = none := by
  simp [get?, next]

theorem ne_next_of_get? {table : Table α} {reference : Reference} {object : α}
    (present : table.get? reference = some object) (id : String) :
    reference ≠ table.next id := by
  rintro rfl
  rw [get?_next] at present
  exact absurd present (by simp)

end Table

namespace Store

variable {store : Store} {settings : Settings}

@[simp]
theorem registries_post (store : Store) (handler : Reference) (events : List Event) :
    (store.post handler events).registries = store.registries := rfl

@[simp]
theorem contexts_post (store : Store) (handler : Reference) (events : List Event) :
    (store.post handler events).contexts = store.contexts := rfl

@[simp]
theorem registries_note (store : Store) (recorder : Option Reference) (request : Option Request) :
    (store.note recorder request).registries = store.registries := by
  unfold note
  split <;> rfl

@[simp]
theorem contexts_note (store : Store) (recorder : Option Reference) (request : Option Request) :
    (store.note recorder request).contexts = store.contexts := by
  unfold note
  split <;> rfl

@[simp]
theorem handlers_note (store : Store) (recorder : Option Reference) (request : Option Request) :
    (store.note recorder request).handlers = store.handlers := by
  unfold note
  split <;> rfl

@[simp]
theorem registries_commit (store : Store) (registry : Reference) (attempt : Attempt) :
    (store.commit registry attempt).registries =
      store.registries.modify registry fun _ => attempt.registry := by
  simp [commit]

@[simp]
theorem contexts_commit (store : Store) (registry : Reference) (attempt : Attempt) :
    (store.commit registry attempt).contexts = store.contexts := by
  simp [commit]

@[simp]
theorem registries_setCaller (store : Store) (context : Reference) (caller : Location) :
    (store.setCaller context caller).registries = store.registries := rfl

@[simp]
theorem contexts_addRecorder (store : Store) (recorder : Option String) :
    (store.addRecorder recorder).contexts = store.contexts := by
  unfold addRecorder
  split <;> rfl

/-- A mark, made or refused, changes nothing but vendor marks. -/
theorem exists_mark_eq (store : Store) (context : Reference) (what : String)
    (add : VendorMarks → RepositoryName → VendorMarks) (repository : String) :
    ∃ vendors, (store.mark context what add repository).1 = { store with vendors := vendors } := by
  unfold mark
  split
  · exact ⟨store.vendors, rfl⟩
  · split
    · exact ⟨store.vendors, rfl⟩
    · exact ⟨_, rfl⟩

theorem declare_of_get? {registry : Reference} {target : Registry}
    (present : store.registries.get? registry = some target) (values : OrderedMap Value)
    (ruleClass : RuleClass) (location : Location) (version : Option String) :
    store.declare settings registry values ruleClass location version =
      (store.commit registry
        (target.declare values ruleClass location (settings.chooseVersion version)),
        (target.declare values ruleClass location (settings.chooseVersion version)).outcome) := by
  simp [declare, present]

@[simp]
theorem contexts_declare (store : Store) (registry : Reference) (values : OrderedMap Value)
    (ruleClass : RuleClass) (location : Location) (version : Option String) :
    (store.declare settings registry values ruleClass location version).1.contexts =
      store.contexts := by
  unfold declare
  split <;> simp

theorem createRepo_of_get? {context : Reference} {caller : Context}
    (present : store.contexts.get? context = some caller) (registry : Reference)
    (values : OrderedMap Value) (ruleClass : RuleClass) (location : Option Location) :
    store.createRepo settings context registry values ruleClass location =
      store.declare settings registry values ruleClass (location.getD caller.caller)
        (some caller.semanticsVersion) := by
  simp [createRepo, present]

/-- A rule call that finds its registry is a declaration in it from the position of the call. -/
theorem call_of_attached {context registry : Reference} {entered : Context} {ruleClass : RuleClass}
    {values : OrderedMap Value} (keywords : checkKeywords ruleClass values = .ok ())
    (present : store.contexts.get? context = some entered)
    (attached : entered.registry = some registry) (position : Location) :
    store.call settings context ruleClass values position =
      (((store.setCaller context position).declare settings registry values ruleClass position
          (some entered.semanticsVersion)).1.setCaller context entered.caller,
        ((store.setCaller context position).declare settings registry values ruleClass position
          (some entered.semanticsVersion)).2) := by
  have moved : (store.setCaller context position).contexts.get? context =
      some (entered.calledFrom position) := by
    simp [setCaller, Table.get?_modify_self, present]
  simp only [call, keywords, attachedRegistry, present, Option.bind_some, attached,
    createRepo_of_get? moved]
  rfl

/--
A rule call either fails before it reaches a registry and changes nothing, or it
is a declaration from its position in the registry attached to the context, after
which the context tells the position that it told before.
-/
theorem call_cases (store : Store) (settings : Settings) (context : Reference)
    (ruleClass : RuleClass) (values : OrderedMap Value) (position : Location) :
    (∃ failure, store.call settings context ruleClass values position = (store, .error failure)) ∨
    (∃ registry entered, store.contexts.get? context = some entered ∧
      entered.registry = some registry ∧
      store.call settings context ruleClass values position =
        (((store.setCaller context position).declare settings registry values ruleClass position
            (some entered.semanticsVersion)).1.setCaller context entered.caller,
          ((store.setCaller context position).declare settings registry values ruleClass position
            (some entered.semanticsVersion)).2)) := by
  rcases keywords : checkKeywords ruleClass values with failure | _
  · exact Or.inl ⟨failure, by simp [call, keywords]⟩
  · rcases present : store.contexts.get? context with _ | entered
    · exact Or.inl ⟨_, by simp only [call, keywords, attachedRegistry, present]; rfl⟩
    · rcases attached : entered.registry with _ | registry
      · refine Or.inl ⟨.outsideEvaluation (ruleClass.name ++ "()"), ?_⟩
        simp only [call, keywords, attachedRegistry, present, Option.bind_some, attached]
      · exact Or.inr ⟨registry, entered, rfl, attached,
          call_of_attached keywords present attached position⟩

/-- A declaration extends the registry that it names by what it adds, and no other one. -/
theorem exists_extends_declare {reference : Reference} {registry : Registry}
    (present : store.registries.get? reference = some registry) (target : Reference)
    (values : OrderedMap Value) (ruleClass : RuleClass) (location : Location)
    (version : Option String) :
    ∃ later,
      (store.declare settings target values ruleClass location version).1.registries.get?
        reference = some later ∧
      registry.Extends
        (if target = reference then
          Registry.accepted values location
            (store.declare settings target values ruleClass location version).2.toOption
        else []) later := by
  by_cases here : target = reference
  · subst here
    rw [declare_of_get? present]
    refine ⟨(registry.declare values ruleClass location (settings.chooseVersion version)).registry,
      ?_, ?_⟩
    · rw [registries_commit, Table.get?_modify_self, present]
      rfl
    · rw [if_pos rfl]
      exact registry.extends_declare values ruleClass location _
  · rw [if_neg here]
    refine ⟨registry, ?_, .refl registry⟩
    unfold declare
    split
    · exact present
    · rw [registries_commit, Table.get?_modify_of_ne _ _ (Ne.symm here)]
      exact present

namespace Operation

variable {store : Store}

theorem specification?_map_declared (outcome : Except Error Specification) :
    ((outcome.map Reply.declared).toOption.bind Reply.specification?) = outcome.toOption := by
  cases outcome <;> rfl

/-- An operation extends every registry by what it adds to it. -/
theorem exists_extends_perform (settings : Settings) {reference : Reference} {registry : Registry}
    (present : store.registries.get? reference = some registry) (operation : Operation) :
    ∃ later, (operation.perform settings store).1.registries.get? reference = some later ∧
      registry.Extends (operation.accepted settings reference store) later := by
  cases operation with
  | declare target values ruleClass location version =>
      simp only [accepted, target?, perform, specification?_map_declared]
      exact exists_extends_declare present target values ruleClass location version
  | createRepo context target values ruleClass location =>
      rcases caller : store.contexts.get? context with _ | entered
      · simp only [accepted, target?, perform, caller, Store.createRepo, Option.map_none]
        exact ⟨registry, present, .refl registry⟩
      · simp only [accepted, target?, perform, caller, createRepo_of_get? caller,
          specification?_map_declared, Option.map_some]
        exact exists_extends_declare present target values ruleClass _ _
  | call context ruleClass values position =>
      rcases store.call_cases settings context ruleClass values position with
        ⟨failure, failed⟩ | ⟨target, entered, caller, attached, called⟩
      · refine ⟨registry, by simpa [perform, failed] using present, ?_⟩
        have nothing : (Operation.call context ruleClass values position).accepted settings
            reference store = [] := by
          simp only [accepted, target?, perform, failed]
          split
          · split <;> simp [Except.map, Except.toOption]
          · rfl
        rw [nothing]
        exact .refl registry
      · simp only [accepted, target?, perform, called, caller, attached, Option.bind_some,
          Option.map_some, specification?_map_declared, registries_setCaller]
        have moved : (store.setCaller context position).registries.get? reference =
            some registry := present
        exact exists_extends_declare moved target values ruleClass position _
  | sealRegistry target =>
      by_cases here : reference = target
      · subst here
        refine ⟨registry.sealed, ?_, registry.extends_sealed⟩
        show (store.registries.modify reference Registry.sealed).get? reference = _
        rw [Table.get?_modify_self, present]
        rfl
      · refine ⟨registry, ?_, .refl registry⟩
        show (store.registries.modify target Registry.sealed).get? reference = _
        rw [Table.get?_modify_of_ne _ _ here, present]
  | createRegistry id repoPrefix scope directories handler materializer recorder =>
      refine ⟨registry, ?_, .refl registry⟩
      show (store.registries.add id _).get? reference = _
      rw [Table.get?_add_of_ne _ _ (Table.ne_next_of_get? present id), present]
  | mark context what add repository =>
      refine ⟨registry, ?_, .refl registry⟩
      rcases store.exists_mark_eq context what add repository with ⟨vendors, marked⟩
      show (store.mark context what add repository).1.registries.get? reference = _
      rw [marked]
      exact present
  | extract | locationOf | inspectRegistry | inspectContext | createContext | setCaller | attach
  | detach | inspectHandler | createHandler | post | clearEvents | inspectRecorder
  | createVendor => exact ⟨registry, present, .refl registry⟩

/-- Operations extend every registry by what they add to it. -/
theorem exists_extends_runAll (settings : Settings) {reference : Reference} {registry : Registry}
    (present : store.registries.get? reference = some registry) (operations : List Operation) :
    ∃ later, (runAll settings operations store).registries.get? reference = some later ∧
      registry.Extends (acceptedBy settings reference operations store) later := by
  induction operations generalizing store registry with
  | nil => exact ⟨registry, present, .refl registry⟩
  | cons operation rest ih =>
      rcases exists_extends_perform settings present operation with
        ⟨middle, middlePresent, first⟩
      rcases ih middlePresent with ⟨later, laterPresent, second⟩
      exact ⟨later, laterPresent, first.trans second⟩

end Operation

end Store

/--
A new registry is exactly the log of the declarations that it accepts, whatever
operations are performed in whatever order and whichever of them fail; and
further operations only add to the end of that log.
-/
theorem Registry.holds_accepted (settings : Settings) (store : Store) (id repoPrefix : String)
    (scope : Scope) (directories : Directories) (handler : Reference)
    (materializer : Materializer) (recorder : Option String)
    (operations later : List Store.Operation) :
    let reference := store.registries.next id
    let created :=
      store.addRegistry id repoPrefix scope directories handler materializer recorder
    let reached := Store.Operation.runAll settings operations created
    let log := Store.Operation.acceptedBy settings reference operations created
    let laterLog := Store.Operation.acceptedBy settings reference later reached
    ∃ registry, reached.registries.get? reference = some registry ∧ registry.Holds log ∧
      ∃ laterRegistry,
        (Store.Operation.runAll settings later reached).registries.get? reference =
          some laterRegistry ∧
        laterRegistry.Holds (log ++ laterLog) ∧
        registry.extract.entries <+: laterRegistry.extract.entries := by
  intro reference created reached log laterLog
  have present : created.registries.get? reference = _ := Table.get?_add_next store.registries id _
  rcases Store.Operation.exists_extends_runAll settings present operations with
    ⟨registry, registryPresent, extension⟩
  rcases Store.Operation.exists_extends_runAll settings registryPresent later with
    ⟨laterRegistry, laterPresent, laterExtension⟩
  have holds : registry.Holds log := extension.holds rfl
  have laterHolds : laterRegistry.Holds (log ++ laterLog) :=
    (extension.trans laterExtension).holds rfl
  refine ⟨registry, registryPresent, holds, laterRegistry, laterPresent, laterHolds, ?_⟩
  rw [holds.extract, laterHolds.extract, List.map_append]
  exact List.prefix_append _ _

end ExternalRepos

import ExternalRepos.Proofs.Materializer.Warnings
import ExternalRepos.Proofs.Registry.Outcome
import ExternalRepos.Proofs.Session.Lifecycle

/-!
# The diagnostics of an evaluation

An evaluation has a handler of its own, which its registry posts to, and hands on what
this one gets to the handler that it was supplied with. Both hear the registry exactly
once: the first is new, and the second is linked (`hearsOnce_own`, `hearsOnce_supplied`).
So unless they are cleared they get the events of the declarations that the
implementation attempts, in order and whether it catches their errors or fails, and if
nobody else tells them anything they get nothing else (`diagnostics_exact`). Under the
schema materializer these are the warnings about the keywords before the first one at
fault.

Code can also post to a handler, clear it, or declare in another registry that passes
its events on to it. Then the events are not those of the attempts any more
(`diagnostics_disturbed`).
-/

namespace ExternalRepos

/-- Events are the warnings about the keywords of a request before the first one at fault. -/
def Request.Warns (request : Request) (events : List Event) : Prop :=
  ∃ before,
    BeforeFault (request.ruleClass.KeywordFault request.scope) request.values.entries before ∧
    events = before.filterMap request.ruleClass.warning?

/-- An attempt that asks the materializer nothing posts nothing; else it posts warnings. -/
inductive Attempt.Warns (attempt : Attempt) : Prop
  | unasked (nothing : attempt.request = none) (silent : attempt.events = [])
  | asked {request : Request} (asked : attempt.request = some request)
      (warns : request.Warns attempt.events)

namespace Registry

variable {registry : Registry}

theorem Chooses.unique {values : OrderedMap Value} {name other : String}
    (chosen : Chooses values name) (again : Chooses values other) : name = other := by
  have same := chosen.1.symm.trans again.1
  cases same
  rfl

/-- A sealed registry gives no name, nor does any that finds none chosen or finds it declared. -/
theorem exists_newName_error {values : OrderedMap Value}
    (refused : registry.isSealed = true ∨ (∀ name, ¬Chooses values name) ∨
      ∃ name first, Chooses values name ∧ registry.locationOf name = some first) :
    ∃ failure, registry.newName values = .error failure := by
  rcases registry.newName_cases values with
    ⟨_, failed⟩ | ⟨_, _, failure, failed, _⟩ |
      ⟨isOpen, name, chosen, ⟨first, _, failed⟩ | ⟨fresh, _⟩⟩
  · exact ⟨_, failed⟩
  · exact ⟨failure, failed⟩
  · exact ⟨_, failed⟩
  · rcases refused with isSealed | unnamed | ⟨other, first, again, declared⟩
    · rw [isOpen] at isSealed
      cases isSealed
    · exact absurd chosen (unnamed name)
    · rw [again.unique chosen, fresh] at declared
      cases declared

theorem newName_of_fresh {values : OrderedMap Value} {name : String}
    (isOpen : registry.isSealed = false) (chosen : Chooses values name)
    (fresh : registry.locationOf name = none) : registry.newName values = .ok name :=
  newName_eq_ok_iff.2 ⟨isOpen, chosen.1, chosen.2, Option.map_eq_none_iff.1 fresh⟩

theorem declare_of_newName_error {values : OrderedMap Value} {failure : Error}
    (refused : registry.newName values = .error failure) (ruleClass : RuleClass)
    (location : Location) (version : String) :
    registry.declare values ruleClass location version = ⟨registry, none, [], .error failure⟩ := by
  simp only [declare, refused]

theorem warns_declare_of_newName (bySchema : registry.materializer = .schema)
    {values : OrderedMap Value} {name : String} (named : registry.newName values = .ok name)
    (ruleClass : RuleClass) (location : Location) (version : String) :
    (registry.request name values ruleClass version).Warns
      (registry.declare values ruleClass location version).events := by
  rw [events_declare_of_newName named, bySchema]
  exact Materializer.exists_events_schema _

theorem warns_declare (bySchema : registry.materializer = .schema) (values : OrderedMap Value)
    (ruleClass : RuleClass) (location : Location) (version : String) :
    (registry.declare values ruleClass location version).Warns := by
  rcases named : registry.newName values with failure | name
  · rw [declare_of_newName_error named]
    exact .unasked rfl rfl
  · exact .asked (request_declare_of_newName named)
      (warns_declare_of_newName bySchema named ruleClass location version)

end Registry

namespace Store.Operation

/-- The attempts of a run in a registry are made by that registry as it is at the time. -/
theorem exists_extends_of_mem_attempts {settings : Settings} {store : Store}
    {reference : Reference} {registry : Registry} {operations : List Operation} {attempt : Attempt}
    (present : store.registries.get? reference = some registry)
    (attemptMem : attempt ∈ attempts settings reference operations store) :
    ∃ log later values ruleClass location version, registry.Extends log later ∧
      attempt = later.declare values ruleClass location version := by
  induction operations generalizing store registry with
  | nil => simp [attempts] at attemptMem
  | cons operation rest ih =>
      rcases List.mem_append.1 attemptMem with here | further
      · rcases exists_declares_of_attempt? (attempt?_of_attemptIn? (Option.mem_toList.1 here)) with
          ⟨found, values, ruleClass, location, version, _, foundPresent, rfl⟩
        rw [present] at foundPresent
        cases foundPresent
        exact ⟨[], registry, values, ruleClass, location, _, .refl registry, rfl⟩
      · rcases exists_extends_perform settings present operation with
          ⟨middle, middlePresent, first⟩
        rcases ih middlePresent further with
          ⟨log, later, values, ruleClass, location, version, second, rfl⟩
        exact ⟨_, later, values, ruleClass, location, version, first.trans second, rfl⟩

end Store.Operation

namespace Evaluation

variable (evaluation : Evaluation) (settings : Settings) (materializer : Materializer)
  (forwards : List Reference) (store : Store)

theorem exists_registry_setup_enter :
    ∃ registry,
      (evaluation.enter settings materializer forwards store).store.registries.get?
        (evaluation.enter settings materializer forwards store).registry = some registry ∧
      registry.handler = (evaluation.enter settings materializer forwards store).handler ∧
      registry.materializer = materializer :=
  ⟨_, Table.get?_add_next store.registries evaluation.registry _, rfl, rfl⟩

theorem handlers_enter :
    (evaluation.enter settings materializer forwards store).store.handlers =
      store.handlers.add handlerId (.create forwards) := by
  show (Store.addRecorder _ _).handlers = _
  rw [Store.handlers_addRecorder]
  rfl

theorem get?_handler_enter :
    (evaluation.enter settings materializer forwards store).store.handlers.get?
        (evaluation.enter settings materializer forwards store).handler =
      some (.create forwards) := by
  rw [handlers_enter]
  exact Table.get?_add_next store.handlers handlerId _

/-- What was there when an evaluation began is not its own handler. -/
theorem ne_handler_enter {reference : Reference} {handler : Handler}
    (present : store.handlers.get? reference = some handler) :
    reference ≠ (evaluation.enter settings materializer forwards store).handler :=
  Table.ne_next_of_get? present handlerId

theorem listeners_enter :
    (evaluation.enter settings materializer forwards store).store.listeners
        (evaluation.enter settings materializer forwards store).handler =
      (evaluation.enter settings materializer forwards store).handler :: forwards := by
  rw [Store.listeners, get?_handler_enter]
  rfl

/-- A handler that is told once what the handler of an evaluation gets hears its registry once. -/
theorem hearsOnce_of_timesHeard {handler : Reference}
    (once : (evaluation.enter settings materializer forwards store).store.timesHeard
      (evaluation.enter settings materializer forwards store).handler handler = 1) :
    (evaluation.enter settings materializer forwards store).store.HearsOnce
      (evaluation.enter settings materializer forwards store).registry handler := by
  rcases exists_registry_setup_enter evaluation settings materializer forwards store with
    ⟨registry, present, sameHandler, _⟩
  rw [← sameHandler] at once
  refine ⟨registry, .create forwards, present, ?_, once⟩
  rw [sameHandler]
  exact get?_handler_enter evaluation settings materializer forwards store

theorem hearsOnce_own (joins : store.HasHandlers forwards) :
    (evaluation.enter settings materializer forwards store).store.HearsOnce
      (evaluation.enter settings materializer forwards store).registry
      (evaluation.enter settings materializer forwards store).handler := by
  have absent : (evaluation.enter settings materializer forwards store).handler ∉ forwards := by
    intro forwarded
    rcases joins _ forwarded with ⟨handler, present⟩
    exact ne_handler_enter evaluation settings materializer forwards store present rfl
  apply hearsOnce_of_timesHeard
  rw [Store.timesHeard, listeners_enter, List.count_cons_self, List.count_eq_zero_of_not_mem absent]

theorem hearsOnce_supplied (linked : store.Linked) {supplied : Reference} {held : Handler}
    (present : store.handlers.get? supplied = some held)
    (chained : forwards = store.listeners supplied) :
    (evaluation.enter settings materializer forwards store).store.HearsOnce
      (evaluation.enter settings materializer forwards store).registry supplied := by
  have different := ne_handler_enter evaluation settings materializer forwards store present
  have absent : supplied ∉ held.forwards :=
    fun forwarded => (linked supplied held present supplied forwarded).1 rfl
  apply hearsOnce_of_timesHeard
  rw [Store.timesHeard, listeners_enter, List.count_cons_of_ne (Ne.symm different), chained,
    Store.listeners, present, List.count_cons_self]
  exact congrArg (· + 1) (List.count_eq_zero_of_not_mem absent)

/--
A handler that hears a registry once and is not cleared gets the events of the attempts in
it, among others if it is told others.
-/
theorem exists_handler_run {program : Program} {settings : Settings} {store : Store}
    {reference handler : Reference} {held : Handler} (hears : store.HearsOnce reference handler)
    (present : store.handlers.get? handler = some held) :
    let history := program.history settings store
    let attempted := (Store.Operation.attempts settings reference history store).flatMap
      Attempt.events
    ∃ later, (program.run settings store).store.handlers.get? handler = some later ∧
      (.clearEvents handler ∉ history → ∃ told, later.events = held.events ++ told ∧
        attempted.Sublist told ∧
        (Store.Operation.OnlyDeclares settings reference handler history store →
          told = attempted)) := by
  intro history attempted
  rcases Store.Operation.exists_handler_runAll settings present history with
    ⟨later, laterPresent, told⟩
  rw [← program.store_run] at laterPresent
  refine ⟨later, laterPresent, ?_⟩
  intro kept
  exact ⟨_, told kept, hears.flatMap_sublist_toldBy, hears.toldBy_eq_flatMap⟩

theorem result_eq_of_run_eq_ok {implementation : Store → Outcome} {result : EvaluationResult}
    (gave : (evaluation.run settings materializer forwards store implementation).2 = .ok result) :
    result = evaluation.result (evaluation.enter settings materializer forwards store)
      (implementation (evaluation.enter settings materializer forwards store).store).store := by
  unfold run at gave
  simp only [conclude] at gave
  split at gave
  · cases gave
  · exact (Except.ok.inj gave).symm

/--
Exact diagnostics. A warning is about one keyword, and the schema materializer posts those
before the first keyword at fault. A declaration posts nothing if the registry is sealed,
if the keywords choose no name, or if the name has been declared. The handlers of a
session are linked, and then the following holds of an evaluation, whatever its
implementation does. Under the schema materializer every declaration that it attempts in
its registry posts such warnings or nothing. If the handler of the evaluation is not
cleared, the events of these attempts are among those of the result in their order, and
they are all if it is told nothing else. And if a supplied handler is not cleared, they
are among the events that it has behind those that it held before, and again they are all
if it is told nothing else, whether the evaluation fails or not.
-/
theorem diagnostics_exact :
    (∀ (ruleClass : RuleClass) (key : String) (given : Value) (event : Event),
      ruleClass.warning? (key, given) = some event ↔
        given ≠ .null ∧ ∃ schema note, ruleClass.attribute? key = some schema ∧
          schema.deprecated = some note ∧ note ≠ "" ∧
          event = ⟨.warning, "attribute '" ++ key ++ "' of '" ++ ruleClass.name ++
            "' is deprecated: " ++ note, none⟩) ∧
    (∀ request : Request, request.Warns (Materializer.schema request).events) ∧
    (∀ (registry : Registry) (values : OrderedMap Value) (ruleClass : RuleClass)
      (location : Location) (version : String), registry.materializer = .schema →
      let attempt := registry.declare values ruleClass location version
      (registry.isSealed = true ∨ (∀ name, ¬Registry.Chooses values name) ∨
        (∃ name first, Registry.Chooses values name ∧ registry.locationOf name = some first) →
        attempt.events = []) ∧
      ∀ name, registry.isSealed = false → Registry.Chooses values name →
        registry.locationOf name = none →
        (registry.request name values ruleClass version).Warns attempt.events) ∧
    (∀ (environment : Environment) (steps : List Step),
      (Step.runAll environment steps .empty).store.Linked) ∧
    ∀ (evaluation : Evaluation) (settings : Settings) (materializer : Materializer)
      (forwards : List Reference) (store : Store) (implementation : Reference → Program),
      store.Linked → store.HasHandlers forwards →
      let entered := evaluation.enter settings materializer forwards store
      let program := implementation entered.context
      let history := program.history settings entered.store
      let attempts := Store.Operation.attempts settings entered.registry history entered.store
      let attempted := attempts.flatMap Attempt.events
      let ended := evaluation.run settings materializer forwards store (program.run settings)
      (materializer = .schema → ∀ attempt ∈ attempts, attempt.Warns) ∧
      (∀ result, ended.2 = .ok result → .clearEvents entered.handler ∉ history →
        attempted.Sublist result.events ∧
        (Store.Operation.OnlyDeclares settings entered.registry entered.handler history
            entered.store →
          result.events = attempted)) ∧
      ∀ supplied held, store.handlers.get? supplied = some held →
        forwards = store.listeners supplied →
        ∃ kept, ended.1.store.handlers.get? supplied = some kept ∧
          (.clearEvents supplied ∉ history → ∃ told, kept.events = held.events ++ told ∧
            attempted.Sublist told ∧
            (Store.Operation.OnlyDeclares settings entered.registry supplied history
                entered.store →
              told = attempted)) := by
  refine ⟨fun _ _ _ _ => RuleClass.warning?_eq_some_iff, Materializer.exists_events_schema, ?_,
    Step.linked_runAll, ?_⟩
  · intro registry values ruleClass location version bySchema attempt
    constructor
    · intro refused
      rcases Registry.exists_newName_error refused with ⟨failure, failed⟩
      show (registry.declare values ruleClass location version).events = []
      rw [Registry.declare_of_newName_error failed]
    · intro name isOpen chosen fresh
      exact Registry.warns_declare_of_newName bySchema
        (Registry.newName_of_fresh isOpen chosen fresh) ruleClass location version
  · intro evaluation settings materializer forwards store implementation linked joins entered
      program history attempts attempted ended
    refine ⟨?_, ?_, ?_⟩
    · rintro rfl attempt attemptMem
      rcases exists_registry_setup_enter evaluation settings .schema forwards store with
        ⟨registry, registryPresent, _, bySchema⟩
      rcases Store.Operation.exists_extends_of_mem_attempts registryPresent attemptMem with
        ⟨log, later, values, ruleClass, location, version, extension, rfl⟩
      exact Registry.warns_declare (extension.materializer_eq.trans bySchema) values ruleClass
        location version
    · intro result gave kept
      -- The handler of the evaluation is new, so what it has been told is all that it holds.
      rcases exists_handler_run
        (hearsOnce_own evaluation settings materializer forwards store joins)
        (get?_handler_enter evaluation settings materializer forwards store) with
        ⟨own, ownPresent, getsTold⟩
      rcases getsTold kept with ⟨told, events, among, all⟩
      have given : result.events = told := by
        rw [result_eq_of_run_eq_ok evaluation settings materializer forwards store gave]
        show ((_ : Option Handler).map Handler.events).getD [] = _
        rw [ownPresent]
        exact events
      rw [given]
      exact ⟨among, all⟩
    · intro supplied held present chained
      have different := ne_handler_enter evaluation settings materializer forwards store present
      have stillPresent : entered.store.handlers.get? supplied = some held := by
        rw [handlers_enter, Table.get?_add_of_ne _ _ different]
        exact present
      exact exists_handler_run
        (hearsOnce_supplied evaluation settings materializer forwards store linked present chained)
        stillPresent

/-- Of three calls one is accepted, and two fail with errors that the implementation catches. -/
theorem diagnostics_exact_of_caught_failures :
    let store := (Step.runAll ⟨.default, ∅⟩
      [.createHandler "kept" .none, .post "kept" "info" "before" none] .empty).store
    let supplied : Reference := ⟨"kept", 0⟩
    let evaluation : Evaluation := ⟨"_main", "deps", default, some "kept", none, none, "ctx", "r"⟩
    let ruleClass : RuleClass :=
      ⟨"archive", default,
        [⟨"old", .string, .null, false, some "use new", ""⟩,
          ⟨"older", .string, .null, false, some "use old", ""⟩], "", by decide⟩
    let accepted : OrderedMap Value := .ofList [("name", .text "a"), ("old", .text "x")]
    let rejected : OrderedMap Value :=
      .ofList [("name", .text "b"), ("old", .text "x"), ("odd", .text "y"), ("older", .text "z")]
    let entered := evaluation.enter .default .schema [supplied] store
    let program := fun outcome =>
      Program.perform (.call entered.context ruleClass accepted .builtin) fun _ =>
        .perform (.call entered.context ruleClass rejected .builtin) fun _ =>
          .perform (.call entered.context ruleClass accepted .builtin) fun _ => .finish outcome
    let ended := fun outcome =>
      evaluation.run .default .schema [supplied] store ((program outcome).run .default)
    let before : Event := ⟨.info, "before", none⟩
    let warning : Event := ⟨.warning, "attribute 'old' of 'archive' is deprecated: use new", none⟩
    (∃ result, (ended (.ok ())).2 = .ok result ∧ result.events = [warning, warning]) ∧
    ∃ kept, (ended (.error (.sealed "r"))).1.store.handlers.get? supplied = some kept ∧
      kept.events = [before, warning, warning] := by
  intro store supplied evaluation ruleClass accepted rejected entered program ended before warning
  have joins : store.HasHandlers [supplied] := by
    intro reference referenceMem
    rw [List.mem_singleton.1 referenceMem]
    exact ⟨⟨[before], []⟩, by decide +kernel⟩
  rcases diagnostics_exact with ⟨_, _, _, linked, exact⟩
  rcases exact evaluation .default .schema [supplied] store (fun _ => program (.ok ()))
    (linked _ _) joins with ⟨_, own, _⟩
  rcases exact evaluation .default .schema [supplied] store
    (fun _ => program (.error (.sealed "r"))) (linked _ _) joins with ⟨_, _, forwarded⟩
  have returned : (ended (.ok ())).2.toOption.isSome := by decide +kernel
  constructor
  · rcases gave : (ended (.ok ())).2 with failure | result
    · rw [gave] at returned
      cases returned
    · refine ⟨result, rfl, ?_⟩
      rw [(own result gave (by simp [program, Program.history])).2 (by decide +kernel)]
      decide +kernel
  · rcases forwarded supplied ⟨[before], []⟩ (by decide +kernel) (by decide +kernel) with
      ⟨kept, present, getsTold⟩
    rcases getsTold (by simp [program, Program.history]) with ⟨told, events, _, all⟩
    refine ⟨kept, present, ?_⟩
    rw [events, all (by decide +kernel)]
    decide +kernel

/--
An implementation makes one call, clears the handler of its evaluation, posts to it, and
evaluates an extension that makes a call of its own and passes events on to the same
supplied handler. Neither handler is left with the one event of the call.
-/
theorem diagnostics_disturbed :
    let store := (Step.runAll ⟨.default, ∅⟩ [.createHandler "kept" .none] .empty).store
    let supplied : Reference := ⟨"kept", 0⟩
    let outer : Evaluation := ⟨"_main", "outer", default, some "kept", none, none, "ctx", "r"⟩
    let inner : Evaluation := ⟨"_main", "inner", default, some "kept", none, none, "ctx", "r"⟩
    let ruleClass : RuleClass :=
      ⟨"archive", default, [⟨"old", .string, .null, false, some "use new", ""⟩], "", by decide⟩
    let values : OrderedMap Value := .ofList [("name", .text "a"), ("old", .text "x")]
    let warning : Event := ⟨.warning, "attribute 'old' of 'archive' is deprecated: use new", none⟩
    let note : Event := ⟨.info, "hi", none⟩
    let entered := outer.enter .default .schema [supplied] store
    let program :=
      Program.perform (.call entered.context ruleClass values .builtin) fun _ =>
        .perform (.clearEvents entered.handler) fun _ =>
          .perform (.post entered.handler [note]) fun _ =>
            .evaluate inner .schema [supplied]
              (fun context => .perform (.call context ruleClass values .builtin) fun _ =>
                .finish (.ok ()))
              fun _ => .finish (.ok ())
    let attempts := Store.Operation.attempts .default entered.registry
      (program.history .default entered.store) entered.store
    let ended := outer.run .default .schema [supplied] store (program.run .default)
    outer.forwards store = .ok [supplied] ∧
    attempts.flatMap Attempt.events = [warning] ∧
    (∃ result, ended.2 = .ok result ∧ result.events = [note] ∧
      result.events ≠ attempts.flatMap Attempt.events) ∧
    ∃ kept, ended.1.store.handlers.get? supplied = some kept ∧
      kept.events = [warning, note, warning] ∧ kept.events ≠ attempts.flatMap Attempt.events := by
  intro store supplied outer inner ruleClass values warning note entered program attempts ended
  have posted : attempts.flatMap Attempt.events = [warning] := by decide +kernel
  have gave : ended.2.toOption.map EvaluationResult.events = some [note] := by decide +kernel
  have kept : ended.1.store.handlers.get? supplied = some ⟨[warning, note, warning], []⟩ := by
    decide +kernel
  refine ⟨rfl, posted, ?_, _, kept, rfl, ?_⟩
  · rcases outcome : ended.2 with failure | result
    · rw [outcome] at gave
      cases gave
    · rw [outcome] at gave
      have events : result.events = [note] := Option.some.inj gave
      refine ⟨result, rfl, events, ?_⟩
      rw [posted, events]
      decide
  · rw [posted]
    decide

end Evaluation

end ExternalRepos

import ExternalRepos.Proofs.Session.Log
import ExternalRepos.Proofs.Session.Program

/-!
# The life of an evaluation

An evaluation creates its own context and registry, runs the implementation of
the extension, and seals and detaches the registry however the implementation
ends. Two facts about single operations carry everything after that: a sealed
registry stays sealed and accepts nothing (`Registry.Extends`), and a context
without a registry gets one by nothing but an attachment of its own
(`exists_context_perform`). Both hold along every sequence of operations, so
they hold while the implementation runs and in whatever runs after it.
-/

namespace ExternalRepos

namespace Store

/-- A context that has no registry attached. -/
def IsDetached (store : Store) (context : Reference) : Prop :=
  ∃ entered, store.contexts.get? context = some entered ∧ entered.registry = none

theorem attachedRegistry_of_isDetached {store : Store} {context : Reference}
    (detached : store.IsDetached context) (what : String) :
    store.attachedRegistry context what = .error (.outsideEvaluation what) := by
  rcases detached with ⟨entered, present, nothing⟩
  simp [attachedRegistry, present, nothing]

namespace Operation

variable {store : Store}

theorem exists_context_modify {contexts : Table Context} {reference : Reference}
    {context : Context} (present : contexts.get? reference = some context) (target : Reference)
    (change : Context → Context)
    (stays : reference = target → context.registry = none → (change context).registry = none) :
    ∃ later, (contexts.modify target change).get? reference = some later ∧
      (context.registry = none → later.registry = none) := by
  by_cases here : reference = target
  · subst here
    refine ⟨change context, ?_, stays rfl⟩
    rw [Table.get?_modify_self, present]
    rfl
  · refine ⟨context, ?_, fun nothing => nothing⟩
    rw [Table.get?_modify_of_ne _ _ here, present]

/-- No operation removes a context, and only one that attaches a registry to it can give it one. -/
theorem exists_context_perform (settings : Settings) {reference : Reference} {context : Context}
    (present : store.contexts.get? reference = some context) (operation : Operation) :
    ∃ later, (operation.perform settings store).1.contexts.get? reference = some later ∧
      ((∀ registry, operation ≠ .attach reference registry) →
        context.registry = none → later.registry = none) := by
  cases operation with
  | declare target values ruleClass location version =>
      refine ⟨context, ?_, fun _ nothing => nothing⟩
      simpa [perform] using present
  | createRepo caller target values ruleClass location =>
      refine ⟨context, ?_, fun _ nothing => nothing⟩
      simp only [perform, Store.createRepo]
      split
      · exact present
      · rw [contexts_declare, present]
  | call caller ruleClass values position =>
      rcases store.call_cases settings caller ruleClass values position with
        ⟨failure, failed⟩ | ⟨target, entered, _, _, called⟩
      · refine ⟨context, ?_, fun _ nothing => nothing⟩
        simpa [perform, failed] using present
      · rcases exists_context_modify present caller (Context.calledFrom · position)
          (fun _ nothing => nothing) with ⟨middle, moved, first⟩
        rcases exists_context_modify moved caller (Context.calledFrom · entered.caller)
          (fun _ nothing => nothing) with ⟨later, back, second⟩
        refine ⟨later, ?_, fun _ nothing => second (first nothing)⟩
        simp only [perform, called, Store.setCaller, contexts_declare]
        exact back
  | createRegistry id repoPrefix scope directories handler materializer recorder =>
      refine ⟨context, ?_, fun _ nothing => nothing⟩
      show (store.addRecorder recorder).contexts.get? reference = _
      rw [contexts_addRecorder, present]
  | createContext id created =>
      refine ⟨context, ?_, fun _ nothing => nothing⟩
      show (store.contexts.add id created).get? reference = _
      rw [Table.get?_add_of_ne _ _ (Table.ne_next_of_get? present id), present]
  | setCaller target caller =>
      rcases exists_context_modify present target (Context.calledFrom · caller)
        (fun _ nothing => nothing) with ⟨later, moved, stays⟩
      exact ⟨later, moved, fun _ => stays⟩
  | attach target registry =>
      by_cases here : reference = target
      · subst here
        refine ⟨context.attach registry, ?_, fun other => absurd rfl (other registry)⟩
        show (store.contexts.modify reference _).get? reference = _
        rw [Table.get?_modify_self, present]
        rfl
      · refine ⟨context, ?_, fun _ nothing => nothing⟩
        show (store.contexts.modify target _).get? reference = _
        rw [Table.get?_modify_of_ne _ _ here, present]
  | detach target =>
      rcases exists_context_modify present target Context.detach
        (fun _ _ => rfl) with ⟨later, moved, stays⟩
      exact ⟨later, moved, fun _ => stays⟩
  | createVendor target =>
      rcases exists_context_modify present target
        (fun entered => { entered with vendor := some (store.vendors.next target.id) })
        (fun _ nothing => nothing) with ⟨later, moved, stays⟩
      exact ⟨later, moved, fun _ => stays⟩
  | mark target what add repository =>
      refine ⟨context, ?_, fun _ nothing => nothing⟩
      rcases store.exists_mark_eq target what add repository with ⟨vendors, marked⟩
      show (store.mark target what add repository).1.contexts.get? reference = _
      rw [marked]
      exact present
  | extract | locationOf | inspectRegistry | sealRegistry | inspectContext | inspectHandler
  | createHandler | post | clearEvents | inspectRecorder =>
      exact ⟨context, present, fun _ nothing => nothing⟩

/-- A context that has no registry has none until one is attached to it. -/
theorem exists_context_runAll (settings : Settings) {reference : Reference} {context : Context}
    (present : store.contexts.get? reference = some context) (operations : List Operation) :
    ∃ later, (runAll settings operations store).contexts.get? reference = some later ∧
      ((∀ registry, .attach reference registry ∉ operations) →
        context.registry = none → later.registry = none) := by
  induction operations generalizing store context with
  | nil => exact ⟨context, present, fun _ nothing => nothing⟩
  | cons operation rest ih =>
      rcases exists_context_perform settings present operation with ⟨middle, middlePresent, first⟩
      rcases ih middlePresent with ⟨later, laterPresent, second⟩
      refine ⟨later, laterPresent, fun unattached nothing => ?_⟩
      have middleDetached : middle.registry = none := by
        apply first _ nothing
        rintro registry rfl
        exact unattached registry List.mem_cons_self
      apply second _ middleDetached
      intro registry member
      exact unattached registry (List.mem_cons_of_mem operation member)

end Operation

/--
A registry whose evaluation has ended. It is sealed and holds what was declared
until then, and no declaration reaches it any more, whatever it asks for.
-/
structure Closed (store : Store) (reference : Reference) (repoPrefix : String)
    (log : List (String × Declaration)) : Prop where
  holds : ∃ registry, store.registries.get? reference = some registry ∧
    registry.isSealed = true ∧ registry.Holds log
  declare : ∀ settings values ruleClass location version,
    (store.declare settings reference values ruleClass location version).2 =
      .error (.sealed repoPrefix)
  createRepo : ∀ settings context caller values ruleClass location,
    store.contexts.get? context = some caller →
      (store.createRepo settings context reference values ruleClass location).2 =
        .error (.sealed repoPrefix)

theorem closed_of_isSealed {store : Store} {reference : Reference} {registry : Registry}
    {log : List (String × Declaration)}
    (present : store.registries.get? reference = some registry)
    (isSealed : registry.isSealed = true) (holds : registry.Holds log) :
    store.Closed reference registry.repoPrefix log := by
  have declare : ∀ settings values ruleClass location version,
      (store.declare settings reference values ruleClass location version).2 =
        .error (.sealed registry.repoPrefix) := by
    intro settings values ruleClass location version
    rw [declare_of_get? present, Registry.declare_of_isSealed isSealed]
  refine ⟨⟨registry, present, isSealed, holds⟩, declare, ?_⟩
  intro settings context caller values ruleClass location callerPresent
  rw [createRepo_of_get? callerPresent]
  exact declare settings values ruleClass _ _

theorem call_of_isDetached {store : Store} {context : Reference}
    (detached : store.IsDetached context) (settings : Settings) (ruleClass : RuleClass)
    {values : OrderedMap Value} (keywords : checkKeywords ruleClass values = .ok ())
    (position : Location) :
    store.call settings context ruleClass values position =
      (store, .error (.outsideEvaluation (ruleClass.name ++ "()"))) := by
  simp only [call, keywords, attachedRegistry_of_isDetached detached]

end Store

namespace Evaluation

variable (evaluation : Evaluation) (settings : Settings) (materializer : Materializer)
  (forwards : List Reference) (store : Store)

theorem exists_registry_enter :
    ∃ registry,
      (evaluation.enter settings materializer forwards store).store.registries.get?
        (evaluation.enter settings materializer forwards store).registry = some registry ∧
      registry.declarations = ∅ ∧ registry.repoPrefix = evaluation.repoPrefix settings :=
  ⟨_, Table.get?_add_next store.registries evaluation.registry _, rfl, rfl⟩

theorem exists_context_enter :
    ∃ context,
      (evaluation.enter settings materializer forwards store).store.contexts.get?
        (evaluation.enter settings materializer forwards store).context = some context := by
  refine ⟨(Context.create settings (some evaluation.id) evaluation.version).attach
    (store.registries.next evaluation.registry), ?_⟩
  show (Table.add (Store.addRecorder _ _).contexts evaluation.context _).get? _ = _
  rw [Store.contexts_addRecorder]
  exact Table.get?_add_next store.contexts evaluation.context _

theorem get?_registry_leave {entered : Entered} {registry : Registry}
    (present : store.registries.get? entered.registry = some registry) :
    (leave entered store).registries.get? entered.registry = some registry.sealed := by
  show (store.registries.modify entered.registry Registry.sealed).get? entered.registry = _
  rw [Table.get?_modify_self, present]
  rfl

theorem isDetached_leave {entered : Entered} {context : Context}
    (present : store.contexts.get? entered.context = some context) :
    (leave entered store).IsDetached entered.context := by
  refine ⟨context.detach, ?_, rfl⟩
  show (store.contexts.modify entered.context Context.detach).get? entered.context = _
  rw [Table.get?_modify_self, present]
  rfl

theorem closed_runAll {reference : Reference} {began registry : Registry}
    {log : List (String × Declaration)} {ended : Store}
    (present : ended.registries.get? reference = some registry)
    (isSealed : registry.isSealed = true) (extension : began.Extends log registry)
    (empty : began.declarations = ∅) (operations : List Store.Operation) :
    (Store.Operation.runAll settings operations ended).Closed reference began.repoPrefix log ∧
      Store.Operation.acceptedBy settings reference operations ended = [] := by
  rcases Store.Operation.exists_extends_runAll settings present operations with
    ⟨later, laterPresent, further⟩
  have nothing := further.log_eq_nil isSealed
  rw [nothing] at further
  have whole : began.Extends log later := extension.trans_nil further
  rw [← whole.repoPrefix_eq]
  exact ⟨Store.closed_of_isSealed laterPresent (further.isSealed isSealed) (whole.holds empty),
    nothing⟩

/--
The life of an evaluation, for every implementation. If the implementation
returns, the evaluation gives the declarations that its registry has accepted
meanwhile, in their order; errors shown to extensions are reported as the
failure of this one, and all others pass unchanged. In each case the registry is
closed and the context detached, and both stay so: whatever runs afterwards, no
declaration enters the registry any more, and no rule can be called on the
context before a registry is attached to it again. A keyword that has the name of
a parameter of the call itself is refused before anything else is looked at.
-/
theorem lifecycle (implementation : Reference → Program) :
    let entered := evaluation.enter settings materializer forwards store
    let program := implementation entered.context
    let ran := program.run settings entered.store
    let log := Store.Operation.acceptedBy settings entered.registry
      (program.history settings entered.store) entered.store
    let ended := evaluation.run settings materializer forwards store (program.run settings)
    (ran.failure = none →
      ∃ result, ended.2 = .ok result ∧
        result.id = evaluation.module ++ "%" ++ evaluation.name ∧
        result.repoPrefix = evaluation.repoPrefix settings ∧
        result.repos.entries = log.map fun entry => (entry.1, entry.2.specification)) ∧
    (∀ failure, ran.failure = some failure →
      ended.2 = .error
        (if failure.kind.stopsEvaluation then
          .extensionFailed (evaluation.module ++ "%" ++ evaluation.name) failure
        else failure)) ∧
    ended.1.store.Closed entered.registry (evaluation.repoPrefix settings) log ∧
    ended.1.store.IsDetached entered.context ∧
    ∀ later : Program,
      let history := later.history settings ended.1.store
      let after := (later.run settings ended.1.store).store
      after.Closed entered.registry (evaluation.repoPrefix settings) log ∧
      Store.Operation.acceptedBy settings entered.registry history ended.1.store = [] ∧
      ∀ (calling : Settings) (ruleClass : RuleClass) (values : OrderedMap Value)
        (position : Location),
        (values.keys.find? Store.callParameters.contains = none →
          (∀ registry, .attach entered.context registry ∉ history) →
          after.call calling entered.context ruleClass values position =
            (after, .error (.outsideEvaluation (ruleClass.name ++ "()")))) ∧
        (∀ key, values.keys.find? Store.callParameters.contains = some key →
          after.call calling entered.context ruleClass values position =
            (after, .error (.reservedKeyword key ruleClass.name))) := by
  intro entered program ran log ended
  rcases evaluation.exists_registry_enter settings materializer forwards store with
    ⟨began, beganPresent, empty, repoPrefix⟩
  rcases evaluation.exists_context_enter settings materializer forwards store with
    ⟨context, contextPresent⟩
  -- While the implementation runs, the registry extends itself by the log and the context stays.
  rcases Store.Operation.exists_extends_runAll settings beganPresent
    (program.history settings entered.store) with ⟨registry, registryPresent, extension⟩
  rcases Store.Operation.exists_context_runAll settings contextPresent
    (program.history settings entered.store) with ⟨lastContext, lastPresent, _⟩
  rw [← program.store_run] at registryPresent lastPresent
  have holds : registry.Holds log := extension.holds empty
  -- The end of the evaluation seals the one and detaches the other.
  have sealedPresent := get?_registry_leave ran.store registryPresent
  have detached : ended.1.store.IsDetached entered.context := isDetached_leave ran.store lastPresent
  have untilSealed := extension.trans_nil registry.extends_sealed
  have closed := closed_runAll settings sealedPresent rfl untilSealed empty
  rw [repoPrefix] at closed
  refine ⟨?_, ?_, (closed []).1, detached, ?_⟩
  · intro returned
    refine ⟨evaluation.result entered ran.store, ?_, rfl, rfl, ?_⟩
    · show evaluation.conclude entered ran = _
      simp only [conclude, returned]
    · show (((ran.store.registries.get? entered.registry).map Registry.extract).getD ∅).entries = _
      rw [registryPresent]
      exact holds.extract
  · intro failure failed
    show evaluation.conclude entered ran = _
    simp only [conclude, failed]
    rfl
  · intro later history after
    rw [show after = Store.Operation.runAll settings history ended.1.store from
      later.store_run settings ended.1.store]
    refine ⟨(closed history).1, (closed history).2, ?_⟩
    intro calling ruleClass values position
    constructor
    · intro keywords unattached
      rcases detached with ⟨endedContext, endedPresent, nothing⟩
      rcases Store.Operation.exists_context_runAll settings endedPresent history with
        ⟨laterContext, laterPresent, stays⟩
      apply Store.call_of_isDetached ⟨laterContext, laterPresent, stays unattached nothing⟩
      simp only [Store.checkKeywords, keywords]
    · intro key reserved
      simp only [Store.call, Store.checkKeywords, reserved]

/-- An extension that generates one repository, and a call on its context when it is over. -/
theorem lifecycle_of_declaration :
    let evaluation : Evaluation := ⟨"_main", "deps", default, none, none, none, "ctx", "r"⟩
    let ruleClass : RuleClass := ⟨"archive", default, [], "", by decide⟩
    let named : OrderedMap Value := .ofList [("name", .text "a")]
    let entered := evaluation.enter .default .schema [] .empty
    let program := Program.perform (.declare entered.registry named ruleClass .builtin none)
      fun _ => .finish (.ok ())
    let ran := program.run .default entered.store
    let ended := evaluation.run .default .schema [] .empty (program.run .default)
    ran.failure = none ∧
    (∃ result, ended.2 = .ok result ∧ result.repos.keys = ["a"]) ∧
    named.keys.find? Store.callParameters.contains = none ∧
    ended.1.store.call .default entered.context ruleClass named .builtin =
      (ended.1.store, .error (.outsideEvaluation "archive()")) := by
  intro evaluation ruleClass named entered program ran ended
  rcases lifecycle evaluation .default .schema [] .empty (fun _ => program) with
    ⟨returns, _, _, _, continues⟩
  have returned : ran.failure = none := rfl
  have keywords : named.keys.find? Store.callParameters.contains = none := rfl
  rcases returns returned with ⟨result, gave, _, _, entries⟩
  rcases continues (.finish (.ok ())) with ⟨_, _, called⟩
  refine ⟨returned, ⟨result, gave, ?_⟩, keywords, ?_⟩
  · rw [OrderedMap.keys, entries]
    rfl
  · exact (called .default ruleClass named .builtin).1 keywords (by simp [Program.history])

/-- A call on a detached context may fail with an error that no extension is shown. -/
theorem call_of_isDetached_typeError :
    let evaluation : Evaluation := ⟨"_main", "leak", default, none, none, none, "ctx", "r"⟩
    let ruleClass : RuleClass := ⟨"odd", default, [], "", by decide⟩
    let entered := evaluation.enter .default .schema [] .empty
    let program := Program.finish (.ok ())
    let ended := evaluation.run .default .schema [] .empty (program.run .default)
    let reserved := Error.reservedKeyword "ctx" "odd"
    ended.1.store.IsDetached entered.context ∧
    (ended.1.store.call .default entered.context ruleClass
      (.ofList [("name", .text "a"), ("ctx", .text "v")]) .builtin).2 = .error reserved ∧
    reserved.kind = .type ∧ reserved.kind.stopsEvaluation = false := by
  refine ⟨⟨_, rfl, rfl⟩, rfl, rfl, rfl⟩

end Evaluation

end ExternalRepos

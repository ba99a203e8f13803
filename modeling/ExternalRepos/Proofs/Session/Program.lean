import ExternalRepos.Proofs.Except
import ExternalRepos.Proofs.Session.Linked

/-!
# Programs

A program is any finite code over the objects of a session. At every point it has
ended, with or without an error, or it performs an operation, or it evaluates an
extension whose implementation is another program; how it goes on may depend on
everything that it has learned, so that it can catch an error or let it pass.
The implementation of an extension is given the context of its evaluation.

The run of a program is a sequence of operations, its `history`, and leaves the
store that these operations leave (`store_run`). The steps that sessions are
written in act on the store by operations as well (`Step.reaches_runAll`), so what
holds after all sequences of operations holds of both; that a registry only grows
at its end, for one, holds of every session (`Step.exists_extends_runAll`). Steps
declare repositories of rules that they can name only. They put new handlers before
existing ones, so the handlers of a session are linked (`Step.linked_runAll`).
-/

namespace ExternalRepos

namespace Evaluation

/-- The operations that create the objects of an evaluation. -/
def entering (evaluation : Evaluation) (settings : Settings) (materializer : Materializer)
    (forwards : List Reference) (store : Store) : List Store.Operation :=
  [.createHandler handlerId forwards,
    .createRegistry evaluation.registry (evaluation.repoPrefix settings) evaluation.scope
      ⟨settings.workspaceRoot, settings.outputBase⟩ (store.handlers.next handlerId) materializer
      (evaluation.recording.map Recording.recorder),
    .createContext evaluation.context
      ((Context.create settings (some evaluation.id) evaluation.version).attach
        (store.registries.next evaluation.registry))]

/-- The operations that end an evaluation. -/
def leaving (entered : Entered) : List Store.Operation :=
  [.sealRegistry entered.registry, .detach entered.context]

theorem runAll_entering (evaluation : Evaluation) (settings : Settings)
    (materializer : Materializer) (forwards : List Reference) (store : Store) :
    Store.Operation.runAll settings (evaluation.entering settings materializer forwards store)
      store = (evaluation.enter settings materializer forwards store).store := rfl

theorem runAll_leaving (settings : Settings) (entered : Entered) (store : Store) :
    Store.Operation.runAll settings (leaving entered) store = leave entered store := rfl

end Evaluation

/-- A finite program over the objects of a session. -/
inductive Program
  /-- Returns, or raises an error. -/
  | finish (outcome : Except Error Unit)
  /-- Performs an operation and goes on by what came of it. -/
  | perform (operation : Store.Operation) (next : Except Error Store.Reply → Program)
  /-- Evaluates an extension and goes on by what the evaluation gave or failed with. -/
  | evaluate (evaluation : Evaluation) (materializer : Materializer) (forwards : List Reference)
      (implementation : Reference → Program)
      (next : Except Error EvaluationResult → Program)

namespace Program

/-- Runs a program. -/
def run (settings : Settings) : Program → Store → Outcome
  | .finish outcome, store =>
      { store := store
        trace := []
        failure := match outcome with
          | .error failure => some failure
          | .ok () => none }
  | .perform operation next, store =>
      let (changed, reply) := operation.perform settings store
      run settings (next reply) changed
  | .evaluate evaluation materializer forwards implementation next, store =>
      let (ran, result) := evaluation.run settings materializer forwards store fun entered =>
        run settings (implementation (store.contexts.next evaluation.context)) entered
      run settings (next result) ran.store
termination_by structural program => program

/-- The operations that the run of a program performs, those of the evaluations in it included. -/
def history (settings : Settings) : Program → Store → List Store.Operation
  | .finish _, _ => []
  | .perform operation next, store =>
      let (changed, reply) := operation.perform settings store
      operation :: history settings (next reply) changed
  | .evaluate evaluation materializer forwards implementation next, store =>
      let entered := evaluation.enter settings materializer forwards store
      let (ran, result) := evaluation.run settings materializer forwards store
        (run settings (implementation (store.contexts.next evaluation.context)))
      evaluation.entering settings materializer forwards store ++
        history settings (implementation (store.contexts.next evaluation.context)) entered.store ++
        Evaluation.leaving entered ++ history settings (next result) ran.store
termination_by structural program => program

/-- A program changes the store by its operations only. -/
theorem store_run (settings : Settings) (program : Program) (store : Store) :
    (program.run settings store).store =
      Store.Operation.runAll settings (program.history settings store) store := by
  induction program generalizing store with
  | finish outcome => rfl
  | perform operation next ih => exact ih _ _
  | evaluate evaluation materializer forwards implementation next ihImplementation ihNext =>
      simp only [run, history, Store.Operation.runAll_append, Evaluation.runAll_entering,
        Evaluation.runAll_leaving]
      rw [ihNext, ← ihImplementation]
      rfl

end Program

namespace Store

/-- The rule of a declaration is one that programs can name. -/
def Operation.Names (environment : Environment) (operation : Operation) : Prop :=
  ∀ ruleClass, operation.ruleClass? = some ruleClass →
    ∃ rule, environment.rules.get? rule = some ruleClass

theorem Operation.names_of_required {environment : Environment} {operation : Operation}
    {rule : String} {ruleClass : RuleClass} (declares : operation.ruleClass? = some ruleClass)
    (known : required (environment.rules.get? rule) rule = .ok ruleClass) :
    operation.Names environment := by
  intro declared same
  rw [declares] at same
  cases same
  rcases found : environment.rules.get? rule with _ | other
  · rw [found] at known
    cases known
  · rw [found] at known
    cases known
    exact ⟨rule, found⟩

/--
Some operations, which declare repositories of known rules only, lead from a store to
another one, and handlers that are linked stay so.
-/
structure Reaches (environment : Environment) (store after : Store) : Prop where
  byOperations : ∃ operations : List Operation,
    (∀ operation ∈ operations, operation.Names environment) ∧
      Operation.runAll environment.settings operations store = after
  linked : store.Linked → after.Linked

namespace Reaches

variable {environment : Environment} {store middle after : Store}

theorem refl (environment : Environment) (store : Store) : Reaches environment store store :=
  ⟨⟨[], by simp, rfl⟩, id⟩

theorem trans (first : Reaches environment store middle)
    (second : Reaches environment middle after) : Reaches environment store after := by
  refine ⟨?_, second.linked ∘ first.linked⟩
  rcases first.byOperations with ⟨earlier, earlierKnown, rfl⟩
  rcases second.byOperations with ⟨later, laterKnown, rfl⟩
  refine ⟨earlier ++ later, ?_, Operation.runAll_append environment.settings earlier later store⟩
  exact List.forall_mem_append.2 ⟨earlierKnown, laterKnown⟩

theorem perform (environment : Environment) (store : Store) (operation : Operation)
    (names : operation.Names environment) (joins : store.Linked → operation.Joins store) :
    Reaches environment store (operation.perform environment.settings store).1 :=
  ⟨⟨[operation], by simpa using names, rfl⟩,
    fun linked => linked.perform environment.settings (joins linked)⟩

/-- What is no declaration names no rule. -/
theorem performOther (environment : Environment) (store : Store) (operation : Operation)
    (declaresNothing : operation.ruleClass? = none)
    (joins : store.Linked → operation.Joins store) :
    Reaches environment store (operation.perform environment.settings store).1 := by
  refine perform environment store operation ?_ joins
  intro ruleClass declares
  rw [declaresNothing] at declares
  cases declares

end Reaches

end Store

namespace Evaluation

theorem reaches_enter (evaluation : Evaluation) (environment : Environment)
    (materializer : Materializer) {forwards : List Reference} {store : Store}
    (joins : store.Linked → store.HasHandlers forwards) :
    store.Reaches environment
      (evaluation.enter environment.settings materializer forwards store).store := by
  let settings := environment.settings
  have first := Store.Reaches.performOther environment store (.createHandler handlerId forwards)
    rfl joins
  have second := first.trans (Store.Reaches.performOther environment _
    (.createRegistry evaluation.registry (evaluation.repoPrefix settings) evaluation.scope
      ⟨settings.workspaceRoot, settings.outputBase⟩ (store.handlers.next handlerId) materializer
      (evaluation.recording.map Recording.recorder)) rfl fun _ => trivial)
  exact second.trans (Store.Reaches.performOther environment _
    (.createContext evaluation.context
      ((Context.create settings (some evaluation.id) evaluation.version).attach
        (store.registries.next evaluation.registry))) rfl fun _ => trivial)

theorem reaches_leave (environment : Environment) (entered : Entered) (store : Store) :
    store.Reaches environment (leave entered store) :=
  (Store.Reaches.performOther environment store (.sealRegistry entered.registry) rfl
    fun _ => trivial).trans
    (Store.Reaches.performOther environment _ (.detach entered.context) rfl fun _ => trivial)

/-- The handler that an evaluation is supplied with is there, and so are those behind it. -/
theorem hasHandlers_forwards {evaluation : Evaluation} {forwards : List Reference} {store : Store}
    (known : evaluation.forwards store = .ok forwards) (linked : store.Linked) :
    store.HasHandlers forwards := by
  unfold Evaluation.forwards at known
  split at known
  · cases known
    simp [Store.HasHandlers]
  · rcases exists_of_map_eq_ok known with ⟨reference, found, rfl⟩
    rcases Store.exists_handler_of_handlerOf found with ⟨handler, present⟩
    exact linked.hasHandlers_listeners present

end Evaluation

namespace Step

variable {environment : Environment} {store : Store}

theorem hasHandlers_delegates {delegate : Delegate} {forwards : List Reference}
    (known : delegates store delegate = .ok forwards) (linked : store.Linked) :
    store.HasHandlers forwards := by
  cases delegate with
  | none | log =>
      cases known
      simp [Store.HasHandlers]
  | handler id =>
      rcases exists_of_map_eq_ok known with ⟨reference, found, rfl⟩
      rcases Store.exists_handler_of_handlerOf found with ⟨handler, present⟩
      exact linked.hasHandlers_listeners present

theorem reaches_change {changed : Except Error Store} {answer : Store → Answer}
    (reached : ∀ after, changed = .ok after → store.Reaches environment after) :
    store.Reaches environment (change store changed answer).store := by
  rcases changed with failure | after
  · exact .refl environment store
  · exact reached after rfl

theorem reaches_declaration {registry : String}
    {attempt : Except Error (Store × Except Error Answer)}
    (reached : ∀ after outcome, attempt = .ok (after, outcome) → store.Reaches environment after) :
    store.Reaches environment (declaration store registry attempt).store := by
  rcases attempt with failure | ⟨after, outcome⟩
  · exact .refl environment store
  · exact reached after outcome rfl

theorem reaches_createRegistryIn (id repoPrefix : String) (scope : Scope)
    (directories : Directories) (handler : String) (recording : Option Recording) :
    store.Reaches environment
      (createRegistryIn store id repoPrefix scope directories handler recording) := by
  unfold createRegistryIn
  rcases store.handlers.current? handler with _ | current
  · exact (Store.Reaches.performOther environment store (.createHandler handler []) rfl
      fun _ => by simp [Store.Operation.Joins, Store.HasHandlers]).trans
      (.performOther environment _ (.createRegistry id repoPrefix scope directories _ _ _) rfl
        fun _ => trivial)
  · exact .performOther environment store
      (.createRegistry id repoPrefix scope directories _ _ _) rfl fun _ => trivial

theorem reaches_markIn (context what repository : String)
    (add : VendorMarks → RepositoryName → VendorMarks) :
    store.Reaches environment (markIn store context what repository add).store := by
  unfold markIn
  rcases store.contextOf context with failure | reference
  · exact .refl environment store
  · exact .performOther environment store (.mark reference what add repository) rfl fun _ => trivial

/-- A step that has no steps inside acts on the store by operations only. -/
theorem reaches_perform (environment : Environment) (store : Store) (step : Step) :
    store.Reaches environment (perform environment store step).store := by
  cases step with
  | createRegistry id repoPrefix scope directories handler recording =>
      exact reaches_createRegistryIn id repoPrefix scope directories handler recording
  | declare registry rule arguments location version =>
      apply reaches_declaration
      intro after outcome attempted
      rcases exists_of_bind_eq_ok attempted with ⟨values, _, attempted⟩
      rcases exists_of_bind_eq_ok attempted with ⟨reference, _, attempted⟩
      rcases exists_of_bind_eq_ok attempted with ⟨ruleClass, known, attempted⟩
      cases attempted
      exact .perform environment store (.declare reference values ruleClass location version)
        (Store.Operation.names_of_required rfl known) fun _ => trivial
  | createRepo registry context rule arguments location =>
      apply reaches_declaration
      intro after outcome attempted
      rcases exists_of_bind_eq_ok attempted with ⟨values, _, attempted⟩
      rcases exists_of_bind_eq_ok attempted with ⟨reference, _, attempted⟩
      rcases exists_of_bind_eq_ok attempted with ⟨caller, _, attempted⟩
      rcases exists_of_bind_eq_ok attempted with ⟨ruleClass, known, attempted⟩
      cases attempted
      exact .perform environment store (.createRepo caller reference values ruleClass location)
        (Store.Operation.names_of_required rfl known) fun _ => trivial
  | call registry context rule arguments position =>
      apply reaches_declaration
      intro after outcome attempted
      rcases exists_of_bind_eq_ok attempted with ⟨ruleClass, known, attempted⟩
      rcases exists_of_bind_eq_ok attempted with ⟨caller, _, attempted⟩
      rcases exists_of_bind_eq_ok attempted with ⟨values, _, attempted⟩
      cases attempted
      exact .perform environment store (.call caller ruleClass values position)
        (Store.Operation.names_of_required rfl known) fun _ => trivial
  | sealRegistry registry =>
      apply reaches_change
      intro after changed
      rcases exists_of_map_eq_ok changed with ⟨reference, _, rfl⟩
      exact .performOther environment store (.sealRegistry reference) rfl fun _ => trivial
  | createContext id label version =>
      exact .performOther environment store (.createContext id _) rfl fun _ => trivial
  | setCaller context caller =>
      apply reaches_change
      intro after changed
      rcases exists_of_map_eq_ok changed with ⟨reference, _, rfl⟩
      exact .performOther environment store (.setCaller reference caller) rfl fun _ => trivial
  | attach context registry =>
      apply reaches_change
      intro after changed
      rcases exists_of_bind_eq_ok changed with ⟨attached, _, changed⟩
      rcases exists_of_bind_eq_ok changed with ⟨reference, _, changed⟩
      cases changed
      exact .performOther environment store (.attach reference attached) rfl fun _ => trivial
  | detach context =>
      apply reaches_change
      intro after changed
      rcases exists_of_map_eq_ok changed with ⟨reference, _, rfl⟩
      exact .performOther environment store (.detach reference) rfl fun _ => trivial
  | createHandler id delegate =>
      apply reaches_change
      intro after changed
      rcases exists_of_map_eq_ok changed with ⟨forwards, known, rfl⟩
      exact .performOther environment store (.createHandler id forwards) rfl
        (hasHandlers_delegates known)
  | post handler kind message location =>
      apply reaches_change
      intro after changed
      rcases exists_of_bind_eq_ok changed with ⟨reference, _, changed⟩
      split at changed
      · rename_i severity _
        cases changed
        exact .performOther environment store
          (.post reference [⟨severity, message, location⟩]) rfl fun _ => trivial
      · cases changed
  | clearEvents handler =>
      apply reaches_change
      intro after changed
      rcases exists_of_map_eq_ok changed with ⟨reference, _, rfl⟩
      exact .performOther environment store (.clearEvents reference) rfl fun _ => trivial
  | createVendor context =>
      apply reaches_change
      intro after changed
      rcases exists_of_map_eq_ok changed with ⟨reference, _, rfl⟩
      exact .performOther environment store (.createVendor reference) rfl fun _ => trivial
  | ignore context repository =>
      exact reaches_markIn context "ignore()" repository VendorMarks.ignore
  | pin context repository => exact reaches_markIn context "pin()" repository VendorMarks.pin
  | _ => exact .refl environment store

/-- Steps act on the store by operations only, and so do the bodies inside them. -/
theorem reaches_run_and_runBody (environment : Environment) :
    (∀ (step : Step) (store : Store),
      store.Reaches environment (run environment step store).store) ∧
    (∀ (body : List Step) (store : Store),
      store.Reaches environment (runBody environment body store).store) := by
  apply Step.run.mutual_induct environment
    (fun step store => store.Reaches environment (run environment step store).store)
    (fun body store => store.Reaches environment (runBody environment body store).store)
  case case1 =>
    intro evaluation body store failure unknown
    simp only [run, unknown, enclosing]
    exact .refl environment store
  case case2 =>
    intro evaluation body store forwards known ran result ended ih
    have entered := evaluation.reaches_enter environment
      (Recording.materializer evaluation.recording) (Evaluation.hasHandlers_forwards known)
    simp only [run, known, enclosing]
    exact (entered.trans (ih _)).trans (Evaluation.reaches_leave environment _ _)
  case case3 =>
    intro context body store ran result ended ih
    have created := Store.Reaches.performOther environment store
      (.createContext context (Context.create environment.settings (some VendorFile.label) none))
      rfl fun _ => trivial
    have entered := created.trans (Store.Reaches.performOther environment _
      (.createVendor (store.contexts.next context)) rfl fun _ => trivial)
    simp only [run, enclosing]
    exact entered.trans (ih _)
  case case4 =>
    intro step store ih
    simpa only [run] using ih
  case case5 =>
    intro step store notEvaluate notVendorFile notCatching
    rw [run]
    · exact reaches_perform environment store step
    · exact notEvaluate
    · exact notVendorFile
    · exact notCatching
  case case6 =>
    intro store
    exact .refl environment store
  case case7 =>
    intro step rest store first failure failed ih
    simp only [runBody, show (run environment step store).failure = some failure from failed]
    exact ih
  case case8 =>
    intro step rest store first succeeded ihFirst ihRest
    simp only [runBody, show (run environment step store).failure = none from succeeded]
    exact ihFirst.trans ihRest

/-- What holds after all operations holds after all steps of a session. -/
theorem reaches_runAll (environment : Environment) (steps : List Step) (store : Store) :
    store.Reaches environment (runAll environment steps store).store := by
  induction steps generalizing store with
  | nil => exact .refl environment store
  | cons step rest ih =>
      exact ((reaches_run_and_runBody environment).1 step store).trans (ih _)

/-- The handlers of a session are linked. -/
theorem linked_runAll (environment : Environment) (steps : List Step) :
    (runAll environment steps .empty).store.Linked :=
  (reaches_runAll environment steps .empty).linked Store.linked_empty

/-- Whatever steps a session runs, a registry only grows at its end. -/
theorem exists_extends_runAll (environment : Environment) (steps : List Step) {store : Store}
    {reference : Reference} {registry : Registry}
    (present : store.registries.get? reference = some registry) :
    ∃ later log, (runAll environment steps store).store.registries.get? reference = some later ∧
      registry.Extends log later := by
  rcases (reaches_runAll environment steps store).byOperations with ⟨operations, _, reached⟩
  rcases Store.Operation.exists_extends_runAll environment.settings present operations with
    ⟨later, laterPresent, extension⟩
  rw [reached] at laterPresent
  exact ⟨later, _, laterPresent, extension⟩

end Step

end ExternalRepos

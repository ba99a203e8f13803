import ExternalRepos.Session.Step
import ExternalRepos.Specification.Untyped

/-!
# Running programs

`Step.run` says what a step does to the objects of a session, what it adds to
the trace and whether it fails. Evaluating an extension creates a context, a
registry and a handler for it, runs the body, and in every case seals the
registry and detaches it from the context; an error that stops implementations
is reported as the failure of the extension, and every other error passes
unchanged. At the top level a failing step does not end the session.
-/

namespace ExternalRepos

/-- What programs can count on: the settings and the rules by identifier. -/
structure Environment where
  settings : Settings
  rules : OrderedMap RuleClass
  deriving Inhabited

/-- The state after some steps, what they added to the trace, and the error that ended them. -/
structure Outcome where
  store : Store
  trace : List Entry
  failure : Option Error

namespace Store

/-- The newest registry under an identifier. -/
def registryOf (store : Store) (id : String) : Except Error Reference :=
  required (store.registries.current? id) id

/-- The newest context under an identifier. -/
def contextOf (store : Store) (id : String) : Except Error Reference :=
  required (store.contexts.current? id) id

/-- The newest handler under an identifier. -/
def handlerOf (store : Store) (id : String) : Except Error Reference :=
  required (store.handlers.current? id) id

/-- The newest registry under an identifier, as it is now. -/
def registryNow (store : Store) (id : String) : Except Error Registry := do
  let reference ← store.registryOf id
  required (store.registries.get? reference) id

/-- The newest context under an identifier, as it is now. -/
def contextNow (store : Store) (id : String) : Except Error Context := do
  let reference ← store.contextOf id
  required (store.contexts.get? reference) id

/-- The newest handler under an identifier, as it is now. -/
def handlerNow (store : Store) (id : String) : Except Error Handler := do
  let reference ← store.handlerOf id
  required (store.handlers.get? reference) id

/-- The stored attribute that a term mentions. -/
def storedAttribute (store : Store) (registry repository key : String) : Except Error Value := do
  let log ← store.registryNow registry
  let specification ← required (log.extract.get? repository) repository
  required (specification.attributes.get? key) key

/-- The values of keyword arguments. -/
def argumentValues (store : Store) (arguments : Arguments) : Except Error (OrderedMap Value) :=
  (OrderedMap.ofList arguments).traverse fun _ term => term.resolve store.storedAttribute

/-- The names declared in the newest registry under an identifier, if there is one. -/
def declaredNames (store : Store) (id : String) : Option (List String) :=
  match store.registryNow id with
  | .ok registry => some registry.names
  | .error _ => none

/-- Creates the recorder of a recording materializer. -/
def addRecorder (store : Store) (recorder : Option String) : Store :=
  match recorder with
  | some id => { store with recorders := store.recorders.add id [] }
  | none => store

/-- Where the requests of a new recording materializer will be noted. -/
def nextRecorder (store : Store) (recorder : Option String) : Option Reference :=
  recorder.map store.recorders.next

/-- Creates a handler that passes events on to others. -/
def addHandler (store : Store) (id : String) (forwards : List Reference) : Store :=
  { store with handlers := store.handlers.add id (.create forwards) }

/-- Creates a registry; its requests are noted under the identifier of a recorder, if any. -/
def addRegistry (store : Store) (id repoPrefix : String) (scope : Scope)
    (directories : Directories) (handler : Reference) (materializer : Materializer)
    (recorder : Option String) : Store :=
  { store.addRecorder recorder with
    registries := store.registries.add id {
      repoPrefix := repoPrefix
      scope := scope
      directories := directories
      handler := handler
      materializer := materializer
      recorder := store.nextRecorder recorder
      declarations := ∅
      isSealed := false } }

/-- Creates a context. -/
def addContext (store : Store) (id : String) (context : Context) : Store :=
  { store with contexts := store.contexts.add id context }

/-- Attaches a registry to a context. -/
def attachRegistry (store : Store) (context registry : Reference) : Store :=
  { store with contexts := store.contexts.modify context fun entered => entered.attach registry }

/-- Detaches the registry of a context. -/
def detachRegistry (store : Store) (context : Reference) : Store :=
  { store with contexts := store.contexts.modify context Context.detach }

/-- Seals a registry. -/
def sealRegistry (store : Store) (registry : Reference) : Store :=
  { store with registries := store.registries.modify registry Registry.sealed }

/-- Puts empty vendor marks into a context. -/
def addVendor (store : Store) (context : Reference) : Store :=
  { store with
    vendors := store.vendors.add context.id .empty
    contexts := store.contexts.modify context fun entered =>
      { entered with vendor := some (store.vendors.next context.id) } }

end Store

/-- The outcome of a step that does one thing. -/
def Outcome.single (store : Store) (outcome : Except Error Answer)
    (names : Option (List String)) : Outcome where
  store := store
  trace := [.done outcome names]
  failure := match outcome with
    | .error failure => some failure
    | .ok _ => none

namespace Evaluation

/-- The name of the evaluated extension. -/
def id (evaluation : Evaluation) : String :=
  ModuleExtension.identifier evaluation.module evaluation.name

/-- The prefix of the repositories that the extension generates. -/
def repoPrefix (evaluation : Evaluation) (settings : Settings) : String :=
  ModuleExtension.repoPrefix evaluation.module evaluation.name settings.repoNameSeparator

/-- The identifier that the handler of an evaluation gets. -/
def handlerId : String := "events"

/-- An evaluation whose implementation is about to run. -/
structure Entered where
  store : Store
  context : Reference
  registry : Reference
  handler : Reference
  repoPrefix : String

/-- The handlers that the events of an evaluation are passed on to. -/
def forwards (evaluation : Evaluation) (store : Store) : Except Error (List Reference) :=
  match evaluation.forward with
  | none => .ok []
  | some id => (store.handlerOf id).map store.listeners

/-- Creates the objects of an evaluation. -/
def enter (evaluation : Evaluation) (settings : Settings) (materializer : Materializer)
    (forwards : List Reference) (store : Store) : Entered :=
  let context := Context.create settings (some evaluation.id) evaluation.version
  let handler := store.handlers.next handlerId
  let registry := store.registries.next evaluation.registry
  let entered := (store.addHandler handlerId forwards).addRegistry evaluation.registry
    (evaluation.repoPrefix settings) evaluation.scope
    ⟨settings.workspaceRoot, settings.outputBase⟩ handler materializer
    (evaluation.recording.map Recording.recorder)
  { store := entered.addContext evaluation.context (context.attach registry)
    context := store.contexts.next evaluation.context
    registry := registry
    handler := handler
    repoPrefix := evaluation.repoPrefix settings }

/-- How the error that ended an implementation leaves the evaluation. -/
def leavingError (evaluation : Evaluation) (failure : Error) : Error :=
  if failure.kind.stopsEvaluation then .extensionFailed evaluation.id failure else failure

/-- What an evaluation gives when its implementation has returned. -/
def result (evaluation : Evaluation) (entered : Entered) (store : Store) : EvaluationResult where
  id := evaluation.id
  repoPrefix := entered.repoPrefix
  repos := ((store.registries.get? entered.registry).map Registry.extract).getD ∅
  events := ((store.handlers.get? entered.handler).map Handler.events).getD []

/-- What an evaluation gives or fails with when its implementation has ended. -/
def conclude (evaluation : Evaluation) (entered : Entered) (ran : Outcome) :
    Except Error EvaluationResult :=
  match ran.failure with
  | some failure => .error (evaluation.leavingError failure)
  | none => .ok (evaluation.result entered ran.store)

/-- Seals and detaches the registry of an evaluation. -/
def leave (entered : Entered) (store : Store) : Store :=
  (store.sealRegistry entered.registry).detachRegistry entered.context

/-- Runs an implementation between the entry and the end of its evaluation. -/
def run (evaluation : Evaluation) (settings : Settings) (materializer : Materializer)
    (forwards : List Reference) (store : Store) (implementation : Store → Outcome) :
    Outcome × Except Error EvaluationResult :=
  let entered := evaluation.enter settings materializer forwards store
  let ran := implementation entered.store
  let result := evaluation.conclude entered ran
  ({ store := leave entered ran.store
     trace := [.began evaluation.name ran.trace]
     failure := match result with
      | .error failure => some failure
      | .ok _ => none }, result)

end Evaluation

namespace VendorFile

/-- The label of the context of a vendor file. -/
def label : String := "VENDOR"

/-- Creates the context of a vendor file, with empty marks in it. -/
def enter (settings : Settings) (context : String) (store : Store) : Store × Reference :=
  let created := store.addContext context (Context.create settings (some label) none)
  (created.addVendor (store.contexts.next context), store.vendors.next context)

/-- Runs a vendor file; the marks are those of the context that it was started with. -/
def run (settings : Settings) (context : String) (store : Store)
    (function : Store → Outcome) : Outcome × Except Error VendorMarks :=
  let (entered, vendor) := enter settings context store
  let ran := function entered
  let result := match ran.failure with
    | some failure => .error failure
    | none => .ok ((ran.store.vendors.get? vendor).getD .empty)
  ({ ran with trace := [.began label ran.trace] }, result)

end VendorFile

namespace Step

/-- The answer about a declared specification, shown under the name it was declared with. -/
def declaredAnswer (values : OrderedMap Value) (specification : Specification) : Answer :=
  .specification specification ((values.get? "name").bind Value.text?)

/-- Looks something up without changing anything. -/
def look (store : Store) (outcome : Except Error Answer) : Outcome :=
  .single store outcome none

/-- Changes the store if what the step names can be found. -/
def change (store : Store) (changed : Except Error Store) (answer : Store → Answer) : Outcome :=
  match changed with
  | .error failure => .single store (.error failure) none
  | .ok changed => .single changed (.ok (answer changed)) none

/-- Runs a declaration and reports the names of a registry afterwards. -/
def declaration (store : Store) (registry : String)
    (attempt : Except Error (Store × Except Error Answer)) : Outcome :=
  match attempt with
  | .error failure => .single store (.error failure) (store.declaredNames registry)
  | .ok (changed, outcome) => .single changed outcome (changed.declaredNames registry)

/-- The registries that are the one attached to a context, by identifier. -/
def attachedIds (store : Store) (context : Context) : Option (List String) :=
  context.registry.map fun registry =>
    if store.registries.current? registry.id = some registry then [registry.id] else []

/-- The state of a context. -/
def stateOf (store : Store) (context : Context) : Answer :=
  .context context ((context.registry.bind store.registries.get?).map fun registry =>
    (registry.written, registry.isSealed))

/-- The handlers that a new handler passes events on to. -/
def delegates (store : Store) (delegate : Delegate) : Except Error (List Reference) :=
  match delegate with
  | .handler id => (store.handlerOf id).map store.listeners
  | _ => .ok []

/-- Creates a registry, and the handler for it if there is none. -/
def createRegistryIn (store : Store) (id repoPrefix : String) (scope : Scope)
    (directories : Directories) (handler : String) (recording : Option Recording) : Store :=
  let prepared := match store.handlers.current? handler with
    | some _ => store
    | none => store.addHandler handler []
  let reference := (prepared.handlers.current? handler).getD (store.handlers.next handler)
  prepared.addRegistry id repoPrefix scope directories reference (Recording.materializer recording)
    (recording.map Recording.recorder)

/-- Marks a repository through a context. -/
def markIn (store : Store) (context what repository : String)
    (add : VendorMarks → RepositoryName → VendorMarks) : Outcome :=
  match store.contextOf context with
  | .error failure => .single store (.error failure) none
  | .ok reference =>
      let (changed, marks) := store.mark reference what add repository
      .single changed (marks.map .vendor) none

/-- Runs a step that has no steps inside. -/
def perform (environment : Environment) (store : Store) : Step → Outcome
  | .createRegistry id repoPrefix scope directories handler recording =>
      let created := createRegistryIn store id repoPrefix scope directories handler recording
      look created ((created.registryNow id).map fun registry => .text registry.written)
  | .declare registry rule arguments location version =>
      declaration store registry do
        let values ← store.argumentValues arguments
        let reference ← store.registryOf registry
        let ruleClass ← required (environment.rules.get? rule) rule
        let (changed, outcome) := store.declare environment.settings reference values ruleClass
          location version
        return (changed, outcome.map (declaredAnswer values))
  | .createRepo registry context rule arguments location =>
      declaration store registry do
        let values ← store.argumentValues arguments
        let reference ← store.registryOf registry
        let caller ← store.contextOf context
        let ruleClass ← required (environment.rules.get? rule) rule
        let (changed, outcome) := store.createRepo environment.settings caller reference values
          ruleClass location
        return (changed, outcome.map fun specification => .specification specification none)
  | .call registry context rule arguments position =>
      declaration store registry do
        let ruleClass ← required (environment.rules.get? rule) rule
        let caller ← store.contextOf context
        let values ← store.argumentValues arguments
        let (changed, outcome) := store.call environment.settings caller ruleClass values position
        let told := (changed.contexts.get? caller).map Context.caller
        return (changed, outcome.map fun _ => .called (told.getD .builtin))
  | .extract registry =>
      look store ((store.registryNow registry).map fun log => .specifications log.extract.entries)
  | .toValues registry =>
      look store ((store.registryNow registry).map fun log =>
        .values (log.extract.mapValues fun _ specification => specification.toValue).entries)
  | .locationOf registry name =>
      look store ((store.registryNow registry).map fun log => .location (log.locationOf name))
  | .contains registry name =>
      look store ((store.registryNow registry).map fun log =>
        .flag (log.declarations.contains name))
  | .size registry =>
      look store ((store.registryNow registry).map fun log => .count log.declarations.size)
  | .describe registry =>
      look store ((store.registryNow registry).map fun log => .text log.written)
  | .sealRegistry registry =>
      change store ((store.registryOf registry).map store.sealRegistry) fun _ => .nothing
  | .isSealed registry =>
      look store ((store.registryNow registry).map fun log => .flag log.isSealed)
  | .requests recorder =>
      look store ((required (store.recorders.current? recorder) recorder).map .requests)
  | .createContext id label version =>
      let created := Context.create environment.settings label version
      look (store.addContext id created) (.ok (.text created.written))
  | .contextState context =>
      look store ((store.contextNow context).map (stateOf store))
  | .setCaller context caller =>
      change store ((store.contextOf context).map fun reference =>
        store.setCaller reference caller) fun _ => .nothing
  | .attach context registry =>
      change store (do
        let attached ← store.registryOf registry
        let reference ← store.contextOf context
        return store.attachRegistry reference attached) fun _ => .nothing
  | .detach context =>
      change store ((store.contextOf context).map store.detachRegistry) fun _ => .nothing
  | .attached context =>
      look store ((store.contextNow context).map fun entered =>
        .identifiers (attachedIds store entered))
  | .attachedOrFail context what =>
      look store do
        let reference ← store.contextOf context
        let attached ← store.attachedRegistry reference what
        let registry ← required (store.registries.get? attached) attached.id
        return .text registry.written
  | .createHandler id delegate =>
      change store ((delegates store delegate).map (store.addHandler id)) fun _ => .nothing
  | .post handler kind message location =>
      change store (do
        let reference ← store.handlerOf handler
        match EventKind.ofName? kind with
        | some kind => return store.post reference [⟨kind, message, location⟩]
        | none => .error (.unknownEventKind kind)) fun _ => .nothing
  | .events handler => look store ((store.handlerNow handler).map .events)
  | .clearEvents handler =>
      change store ((store.handlerOf handler).map fun reference =>
        { store with handlers := store.handlers.modify reference Handler.clear }) fun _ => .nothing
  | .raise failure => look store (.error failure)
  | .createVendor context =>
      change store ((store.contextOf context).map store.addVendor) fun _ => .nothing
  | .ignore context repository => markIn store context "ignore()" repository VendorMarks.ignore
  | .pin context repository => markIn store context "pin()" repository VendorMarks.pin
  | .evaluate _ _ | .vendorFile _ _ | .catching _ => look store (.ok .nothing)

/-- The outcome of a body with the step's own entry after the one about the body. -/
def enclosing (ran : Outcome) (answer : Except Error Answer) : Outcome where
  store := ran.store
  trace := ran.trace ++ [.done answer none]
  failure := match answer with
    | .error failure => some failure
    | .ok _ => none

mutual

/-- Runs a step. -/
def run (environment : Environment) : Step → Store → Outcome
  | .evaluate evaluation body, store =>
      match evaluation.forwards store with
      | .error failure =>
          enclosing ⟨store, [.began evaluation.name []], some failure⟩ (.error failure)
      | .ok forwards =>
          let (ran, result) := evaluation.run environment.settings
            (Recording.materializer evaluation.recording) forwards store fun entered =>
              runBody environment body entered
          enclosing ran (result.map .evaluation)
  | .vendorFile context body, store =>
      let (ran, result) := VendorFile.run environment.settings context store fun entered =>
        runBody environment body entered
      enclosing ran (result.map .vendor)
  | .catching step, store => { run environment step store with failure := none }
  | step, store => step.perform environment store
termination_by structural step => step

/-- Runs steps in order up to the first failure. -/
def runBody (environment : Environment) : List Step → Store → Outcome
  | [], store => ⟨store, [], none⟩
  | step :: rest, store =>
      let first := run environment step store
      match first.failure with
      | some _ => first
      | none =>
          let later := runBody environment rest first.store
          { later with trace := first.trace ++ later.trace }
termination_by structural steps => steps

end

/-- Runs every step in order, whether steps before it failed or not. -/
def runAll (environment : Environment) : List Step → Store → Outcome
  | [], store => ⟨store, [], none⟩
  | step :: rest, store =>
      let first := step.run environment store
      let later := runAll environment rest first.store
      { later with trace := first.trace ++ later.trace }

end Step

end ExternalRepos

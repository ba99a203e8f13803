import ExternalRepos.Proofs.Registry.Log
import ExternalRepos.Session.Run

/-!
# Operations on the objects of a session

Code reaches the objects of a session by reference and does one thing to them at
a time. `Operation` lists these things, with materializers, keyword values and
positions of any kind, and `Operation.perform` carries them out by the functions
on stores. Steps name their objects by identifiers instead; they act on the
store only through operations.

An operation that adds an object gets a reference that nothing had before, so
what is said of an object stays true of its reference when others are created
under the same identifier.
-/

namespace ExternalRepos.Store

/-- What code can do to the objects of a session. -/
inductive Operation
  | declare (registry : Reference) (values : OrderedMap Value) (ruleClass : RuleClass)
      (location : Location) (version : Option String)
  | createRepo (context registry : Reference) (values : OrderedMap Value)
      (ruleClass : RuleClass) (location : Option Location)
  | call (context : Reference) (ruleClass : RuleClass) (values : OrderedMap Value)
      (position : Location)
  | extract (registry : Reference)
  | locationOf (registry : Reference) (name : String)
  | inspectRegistry (registry : Reference)
  | sealRegistry (registry : Reference)
  | createRegistry (id repoPrefix : String) (scope : Scope) (directories : Directories)
      (handler : Reference) (materializer : Materializer) (recorder : Option String)
  | inspectContext (context : Reference)
  | createContext (id : String) (context : Context)
  | setCaller (context : Reference) (caller : Location)
  | attach (context registry : Reference)
  | detach (context : Reference)
  | inspectHandler (handler : Reference)
  | createHandler (id : String) (forwards : List Reference)
  | post (handler : Reference) (events : List Event)
  | clearEvents (handler : Reference)
  | inspectRecorder (recorder : Reference)
  | createVendor (context : Reference)
  | mark (context : Reference) (what : String) (add : VendorMarks → RepositoryName → VendorMarks)
      (repository : String)

/-- What code learns from an operation. -/
inductive Reply
  | nothing
  | declared (specification : Specification)
  | specifications (repos : OrderedMap Specification)
  | location (location : Option Location)
  | registry (registry : Registry)
  | context (context : Context)
  | handler (handler : Handler)
  | requests (requests : List Request)
  | created (reference : Reference)
  | vendor (marks : VendorMarks)

/-- The specification that a declaration gave. -/
def Reply.specification? : Reply → Option Specification
  | .declared specification => some specification
  | _ => none

namespace Operation

/-- Carries out an operation. -/
def perform (settings : Settings) (store : Store) : Operation → Store × Except Error Reply
  | .declare registry values ruleClass location version =>
      let (changed, outcome) := store.declare settings registry values ruleClass location version
      (changed, outcome.map .declared)
  | .createRepo context registry values ruleClass location =>
      let (changed, outcome) := store.createRepo settings context registry values ruleClass location
      (changed, outcome.map .declared)
  | .call context ruleClass values position =>
      let (changed, outcome) := store.call settings context ruleClass values position
      (changed, outcome.map .declared)
  | .extract registry =>
      (store, (required (store.registries.get? registry) registry.id).map fun log =>
        .specifications log.extract)
  | .locationOf registry name =>
      (store, (required (store.registries.get? registry) registry.id).map fun log =>
        .location (log.locationOf name))
  | .inspectRegistry registry =>
      (store, (required (store.registries.get? registry) registry.id).map .registry)
  | .sealRegistry registry => (store.sealRegistry registry, .ok .nothing)
  | .createRegistry id repoPrefix scope directories handler materializer recorder =>
      (store.addRegistry id repoPrefix scope directories handler materializer recorder,
        .ok (.created (store.registries.next id)))
  | .inspectContext context =>
      (store, (required (store.contexts.get? context) context.id).map .context)
  | .createContext id context =>
      (store.addContext id context, .ok (.created (store.contexts.next id)))
  | .setCaller context caller => (store.setCaller context caller, .ok .nothing)
  | .attach context registry => (store.attachRegistry context registry, .ok .nothing)
  | .detach context => (store.detachRegistry context, .ok .nothing)
  | .inspectHandler handler =>
      (store, (required (store.handlers.get? handler) handler.id).map .handler)
  | .createHandler id forwards =>
      (store.addHandler id forwards, .ok (.created (store.handlers.next id)))
  | .post handler events => (store.post handler events, .ok .nothing)
  | .clearEvents handler =>
      ({ store with handlers := store.handlers.modify handler Handler.clear }, .ok .nothing)
  | .inspectRecorder recorder => (store, .ok (.requests (store.requestsOf recorder)))
  | .createVendor context => (store.addVendor context, .ok .nothing)
  | .mark context what add repository =>
      let (changed, marks) := store.mark context what add repository
      (changed, marks.map .vendor)

/-- The store after some operations in order, whether they failed or not. -/
def runAll (settings : Settings) : List Operation → Store → Store
  | [], store => store
  | operation :: rest, store => runAll settings rest (operation.perform settings store).1

@[simp]
theorem runAll_append (settings : Settings) (earlier later : List Operation) (store : Store) :
    runAll settings (earlier ++ later) store =
      runAll settings later (runAll settings earlier store) := by
  induction earlier generalizing store with
  | nil => rfl
  | cons operation rest ih => exact ih _

/--
The registry that an operation declares into, with the keyword values and the
location that it gives: a rule call reaches the registry attached to its
context, and without a location of its own a declaration has the one that the
context tells.
-/
def target? (store : Store) : Operation → Option (Reference × OrderedMap Value × Location)
  | .declare registry values _ location _ => some (registry, values, location)
  | .createRepo context registry values _ location =>
      (store.contexts.get? context).map fun caller =>
        (registry, values, location.getD caller.caller)
  | .call context _ values position =>
      ((store.contexts.get? context).bind Context.registry).map fun registry =>
        (registry, values, position)
  | _ => none

/-- What an operation adds to a registry: its declaration, if it makes one there and succeeds. -/
def accepted (settings : Settings) (registry : Reference) (store : Store)
    (operation : Operation) : List (String × Declaration) :=
  match operation.target? store with
  | some (target, values, location) =>
      if target = registry then
        Registry.accepted values location
          ((operation.perform settings store).2.toOption.bind Reply.specification?)
      else []
  | none => []

/-- What operations in order add to a registry. -/
def acceptedBy (settings : Settings) (registry : Reference) :
    List Operation → Store → List (String × Declaration)
  | [], _ => []
  | operation :: rest, store =>
      operation.accepted settings registry store ++
        acceptedBy settings registry rest (operation.perform settings store).1

end Operation

end ExternalRepos.Store

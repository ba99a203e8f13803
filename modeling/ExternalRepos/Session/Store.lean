import ExternalRepos.Context
import ExternalRepos.Registry
import ExternalRepos.Session.Table
import ExternalRepos.Vendor

/-!
# The objects of a session

The registries, contexts, event handlers, recorders and vendor marks that a
session has created, and what calls do to them. A declaration changes its
registry, notes the request in the recorder of the registry, and posts its
events; a rule call goes through the registry attached to a context, and while
it runs the context tells the position of the call.
-/

namespace ExternalRepos

/-- Keeps events, and passes them on to others. -/
structure Handler where
  events : List Event
  /-- Every handler that an event is passed on to, directly or not. -/
  forwards : List Reference
  deriving DecidableEq, Inhabited

namespace Handler

/-- A handler without events. -/
def create (forwards : List Reference) : Handler := ⟨[], forwards⟩

/-- Whether an error is among the events. -/
def hasErrors (handler : Handler) : Bool :=
  handler.events.any fun event => event.kind = .error

/-- The handler with more events. -/
def append (events : List Event) (handler : Handler) : Handler :=
  { handler with events := handler.events ++ events }

/-- The handler without events. -/
def clear (handler : Handler) : Handler :=
  { handler with events := [] }

end Handler

/-- The objects of a session. -/
structure Store where
  registries : Table Registry
  contexts : Table Context
  handlers : Table Handler
  /-- The requests noted by each recorder. -/
  recorders : Table (List Request)
  vendors : Table VendorMarks

/-- The object found under an identifier, or the identifier as what is missing. -/
def required {α : Type} (found : Option α) (id : String) : Except Error α :=
  match found with
  | some object => .ok object
  | none => .error (.missingKey id)

namespace Store

/-- The store without objects. -/
def empty : Store := ⟨.empty, .empty, .empty, .empty, .empty⟩

/-- The handlers that get the events posted to one: itself and those it passes them on to. -/
def listeners (store : Store) (handler : Reference) : List Reference :=
  handler :: ((store.handlers.get? handler).map Handler.forwards).getD []

/-- Posts events to a handler. -/
def post (store : Store) (handler : Reference) (events : List Event) : Store :=
  { store with
    handlers := (store.listeners handler).foldl
      (fun table listener => table.modify listener (Handler.append events)) store.handlers }

/-- Notes a request, if there is one and somebody wants it. -/
def note (store : Store) (recorder : Option Reference) (request : Option Request) : Store :=
  match recorder, request with
  | some recorder, some request =>
      { store with recorders := store.recorders.modify recorder fun noted => noted ++ [request] }
  | _, _ => store

/-- The requests that a recorder has noted. -/
def requestsOf (store : Store) (recorder : Reference) : List Request :=
  (store.recorders.get? recorder).getD []

/-- Carries out what an attempted declaration does. -/
def commit (store : Store) (registry : Reference) (attempt : Attempt) : Store :=
  let changed : Store :=
    { store with registries := store.registries.modify registry fun _ => attempt.registry }
  (changed.note attempt.registry.recorder attempt.request).post attempt.registry.handler
    attempt.events

/-- Declares a repository in a registry. -/
def declare (store : Store) (settings : Settings) (registry : Reference)
    (values : OrderedMap Value) (ruleClass : RuleClass) (location : Location)
    (version : Option String) : Store × Except Error Specification :=
  match store.registries.get? registry with
  | none => (store, .error (.missingKey registry.id))
  | some target =>
      let attempt := target.declare values ruleClass location (settings.chooseVersion version)
      (store.commit registry attempt, attempt.outcome)

/-- Declares a repository with the semantics of a context, and its position if none is given. -/
def createRepo (store : Store) (settings : Settings) (context registry : Reference)
    (values : OrderedMap Value) (ruleClass : RuleClass) (location : Option Location) :
    Store × Except Error Specification :=
  match store.contexts.get? context with
  | none => (store, .error (.missingKey context.id))
  | some caller =>
      store.declare settings registry values ruleClass (location.getD caller.caller)
        (some caller.semanticsVersion)

/-- Sets the position that a context tells. -/
def setCaller (store : Store) (context : Reference) (caller : Location) : Store :=
  { store with contexts := store.contexts.modify context fun entered => entered.calledFrom caller }

/-- The registry that a context leads to, for the sake of `what`. -/
def attachedRegistry (store : Store) (context : Reference) (what : String) :
    Except Error Reference :=
  match (store.contexts.get? context).bind Context.registry with
  | some registry => .ok registry
  | none => .error (.outsideEvaluation what)

/-- The names of the parameters that a rule call has besides its keywords. -/
def callParameters : List String := ["self", "ctx"]

/-- Rejects keywords that have the name of a parameter of the call; the first is reported. -/
def checkKeywords (ruleClass : RuleClass) (values : OrderedMap Value) : Except Error Unit :=
  match values.keys.find? callParameters.contains with
  | some key => .error (.reservedKeyword key ruleClass.name)
  | none => .ok ()

/-- Calls a repository rule on a context from a source position. -/
def call (store : Store) (settings : Settings) (context : Reference) (ruleClass : RuleClass)
    (values : OrderedMap Value) (position : Location) : Store × Except Error Specification :=
  match checkKeywords ruleClass values,
      store.attachedRegistry context (ruleClass.name ++ "()"), store.contexts.get? context with
  | .error failure, _, _ => (store, .error failure)
  | .ok (), .error failure, _ => (store, .error failure)
  | .ok (), .ok _, none => (store, .error (.missingKey context.id))
  | .ok (), .ok registry, some entered =>
      let result := (store.setCaller context position).createRepo settings context registry values
        ruleClass none
      (result.1.setCaller context entered.caller, result.2)

/-- The marks that a context leads to, for the sake of `what`. -/
def attachedVendor (store : Store) (context : Reference) (what : String) :
    Except Error Reference :=
  match (store.contexts.get? context).bind Context.vendor with
  | some vendor => .ok vendor
  | none => .error (.outsideVendorFile what)

/-- Marks the repository that a vendor call names. -/
def mark (store : Store) (context : Reference) (what : String)
    (add : VendorMarks → RepositoryName → VendorMarks) (given : String) :
    Store × Except Error VendorMarks :=
  match store.attachedVendor context what with
  | .error failure => (store, .error failure)
  | .ok vendor =>
      match VendorMarks.repository given with
      | .error failure => (store, .error failure)
      | .ok repository =>
          let vendors := store.vendors.modify vendor fun marks => add marks repository
          ({ store with vendors := vendors }, .ok ((vendors.get? vendor).getD .empty))

end Store

end ExternalRepos

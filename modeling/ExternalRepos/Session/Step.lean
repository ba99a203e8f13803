import ExternalRepos.Extension
import ExternalRepos.Session.Store
import ExternalRepos.Session.Term

/-!
# Steps

The steps that programs are made of: whole sessions, and the implementations of
extensions and vendor files that run inside them. Objects are named by
identifiers, which mean the newest object created under them. A body is a list
of steps that ends at the first failure; `catching` keeps a failure from ending
it.
-/

namespace ExternalRepos

/-- What a handler does with events besides keeping them. -/
inductive Delegate
  | none
  /-- Writes them to the log. -/
  | log
  /-- Passes them on to another handler. -/
  | handler (id : String)
  deriving DecidableEq, Inhabited

/-- A materializer that notes its requests, and fails if an error is given for it. -/
structure Recording where
  recorder : String
  failure : Option Error
  deriving DecidableEq, Inhabited

/-- The materializer of a registry: by the schema, unless requests are recorded and fail. -/
def Recording.materializer (recording : Option Recording) : Materializer :=
  match recording.bind Recording.failure with
  | some failure => .failing failure
  | none => .schema

/-- The evaluation of an extension. -/
structure Evaluation where
  module : String
  name : String
  scope : Scope
  /-- The handler that events are passed on to; without one they are logged. -/
  forward : Option String
  version : Option String
  recording : Option Recording
  /-- The identifier that the context of the evaluation gets. -/
  context : String
  /-- The identifier that the registry of the evaluation gets. -/
  registry : String
  deriving DecidableEq, Inhabited

/-- Keyword arguments of a rule call. -/
abbrev Arguments := List (String × Term)

/-- A step of a program. -/
inductive Step
  | createRegistry (id repoPrefix : String) (scope : Scope) (directories : Directories)
      (handler : String) (recording : Option Recording)
  | declare (registry rule : String) (arguments : Arguments) (location : Location)
      (version : Option String)
  | createRepo (registry context rule : String) (arguments : Arguments)
      (location : Option Location)
  /-- Calls a rule on a context; `registry` only says whose names are reported. -/
  | call (registry context rule : String) (arguments : Arguments) (position : Location)
  | extract (registry : String)
  | toValues (registry : String)
  | locationOf (registry name : String)
  | contains (registry name : String)
  | size (registry : String)
  | describe (registry : String)
  | sealRegistry (registry : String)
  | isSealed (registry : String)
  | requests (recorder : String)
  | createContext (id : String) (label version : Option String)
  | contextState (context : String)
  | setCaller (context : String) (caller : Location)
  | attach (context registry : String)
  | detach (context : String)
  | attached (context : String)
  | attachedOrFail (context what : String)
  | createHandler (id : String) (delegate : Delegate)
  | post (handler kind message : String) (location : Option Location)
  | events (handler : String)
  | clearEvents (handler : String)
  | evaluate (evaluation : Evaluation) (body : List Step)
  | raise (failure : Error)
  | vendorFile (context : String) (body : List Step)
  | createVendor (context : String)
  | ignore (context repository : String)
  | pin (context repository : String)
  /-- Runs a step; its failure is noted and goes no further. -/
  | catching (step : Step)
  deriving Inhabited

/-- What a step answers. -/
inductive Answer
  | nothing
  | text (content : String)
  | flag (truth : Bool)
  | count (number : Nat)
  /-- A specification, to be described under a name if one is given. -/
  | specification (specification : Specification) (shownAs : Option String)
  /-- The position that the context tells after a rule call. -/
  | called (caller : Location)
  | specifications (entries : List (String × Specification))
  | values (entries : List (String × Value))
  | location (location : Option Location)
  /-- A recorder, to be shown with all the requests that the session has noted in it by its end. -/
  | requests (recorder : Reference)
  /-- The state of a context, with how its registry shows itself and whether it is sealed. -/
  | context (context : Context) (registry : Option (String × Bool))
  | identifiers (ids : Option (List String))
  | events (handler : Handler)
  | evaluation (result : EvaluationResult)
  | vendor (marks : VendorMarks)
  deriving Inhabited

/-- An entry in the trace of a program. -/
inductive Entry
  /-- A body has run, with its own trace. -/
  | began (name : String) (trace : List Entry)
  /-- A step is done; declarations also show the names in their registry afterwards. -/
  | done (outcome : Except Error Answer) (names : Option (List String))
  deriving Inhabited

end ExternalRepos

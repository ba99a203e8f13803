import ExternalRepos.Materializer
import ExternalRepos.Specification.Basic

/-!
# Registries

A registry is the ordered log of the repositories that one evaluation has
declared. A declaration is checked in this order: the registry must be open,
the `name` keyword must be a name that users may choose, no earlier declaration
may have it, and the materializer must accept the values under the prefixed
name. Only then is the specification recorded, together with the position of
the call; nothing that fails leaves a trace in the registry.
-/

namespace ExternalRepos

/-- The log of the repositories that one evaluation has declared. -/
structure Registry where
  /-- What stands in front of every chosen name in the canonical name. -/
  repoPrefix : String
  scope : Scope
  directories : Directories
  /-- The handler of the events posted by declarations. -/
  handler : Reference
  materializer : Materializer
  /-- Where the requests to the materializer are noted, if anywhere. -/
  recorder : Option Reference
  /-- The accepted declarations by the chosen names, in order. -/
  declarations : OrderedMap Declaration
  isSealed : Bool

/-- What a declaration does: the registry afterwards, what was asked and posted, and the outcome. -/
structure Attempt where
  registry : Registry
  request : Option Request
  events : List Event
  outcome : Except Error Specification

namespace Registry

/-- The place that materializers are told declarations come from. -/
def callSite : String := "RepositoryRuleFunction.createRule"

/-- The chosen name of a declaration that may go ahead. -/
def newName (registry : Registry) (values : OrderedMap Value) : Except Error String :=
  if registry.isSealed then
    .error (.sealed registry.repoPrefix)
  else
    match values.get? "name" with
    | some (.text name) =>
        if isUserProvided name then
          match registry.declarations.get? name with
          | some earlier => .error (.conflict name earlier.location)
          | none => .ok name
        else
          .error (.invalidUserName name)
    | some other => .error (.nameNotText other.typeName)
    | none => .error (.nameNotText Value.null.typeName)

/-- The keyword values with the chosen name replaced by the canonical one. -/
def substituted (registry : Registry) (name : String) (values : OrderedMap Value) :
    OrderedMap Value :=
  values.mapValues fun key value =>
    if key = "name" then .text (registry.repoPrefix ++ name) else value

/-- What the materializer is asked for a declaration. -/
def request (registry : Registry) (name : String) (values : OrderedMap Value)
    (ruleClass : RuleClass) (semanticsVersion : String) : Request where
  scope := registry.scope
  directories := registry.directories
  semanticsVersion := semanticsVersion
  handler := registry.handler
  callSite := callSite
  ruleClass := ruleClass
  values := registry.substituted name values

/-- The error of a declaration whose materializer failed: a rejection names its cause. -/
def materializerFailure (failure : Error) : Error :=
  if failure.kind.rejectsValues then .rejected failure else failure

/-- The specification of a materialized rule: the declared attributes as the rule reads them. -/
def specificationOf (ruleClass : RuleClass) (values : OrderedMap Value) (rule : Rule) :
    Except Error Specification := do
  let attributes ← (values.erase "name").traverse fun key _ => rule.read key
  Specification.create ruleClass.definition.canonicalForm ruleClass.name attributes

/-- The registry with one more declaration. -/
def record (registry : Registry) (name : String) (declaration : Declaration) : Registry :=
  { registry with declarations := registry.declarations.insert name declaration }

/-- Declares a repository. -/
def declare (registry : Registry) (values : OrderedMap Value) (ruleClass : RuleClass)
    (location : Location) (semanticsVersion : String) : Attempt :=
  match registry.newName values with
  | .error failure => ⟨registry, none, [], .error failure⟩
  | .ok name =>
      let request := registry.request name values ruleClass semanticsVersion
      let reply := registry.materializer request
      match reply.outcome.mapError materializerFailure
          |>.bind (specificationOf ruleClass values) with
      | .error failure => ⟨registry, some request, reply.events, .error failure⟩
      | .ok specification =>
          ⟨registry.record name ⟨specification, location⟩, some request, reply.events,
            .ok specification⟩

/-- The specifications by the chosen names, in the order of their declaration. -/
def extract (registry : Registry) : OrderedMap Specification :=
  registry.declarations.mapValues fun _ declaration => declaration.specification

/-- The position of the call that declared a name. -/
def locationOf (registry : Registry) (name : String) : Option Location :=
  (registry.declarations.get? name).map Declaration.location

/-- The registry closed for further declarations. -/
def sealed (registry : Registry) : Registry :=
  { registry with isSealed := true }

/-- The declared names in order. -/
def names (registry : Registry) : List String :=
  registry.declarations.keys

/-- How a registry shows itself. -/
def written (registry : Registry) : String :=
  "RepositoryRegistry(prefix=" ++ Text.quote registry.repoPrefix ++ ", repos=" ++
    toString registry.declarations.size ++ ")"

end Registry

end ExternalRepos

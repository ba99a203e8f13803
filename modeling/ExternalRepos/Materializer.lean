import ExternalRepos.Event
import ExternalRepos.OrderedMap
import ExternalRepos.Reference
import ExternalRepos.Rule

/-!
# Materializers

A materializer turns the keyword values of a repository rule call into a rule
instance. The schema materializer does so by the rule class alone:

* it goes through the keywords in order; each must be known, and each value
  that is not null must fit the type of its attribute and have readable labels,
  which become canonical; a deprecated attribute posts a warning;
* then no mandatory attribute may be missing;
* then the label defaults of the attributes without a value are read;
* and last there must be a name.

The first failing check is reported, and the warnings posted before it stay.
-/

namespace ExternalRepos

/-- The directories that a materializer may resolve paths against. -/
structure Directories where
  workspace : String
  outputBase : String
  deriving DecidableEq, Inhabited

/-- Where the labels of a call are read: its package and its repository mapping. -/
structure Scope where
  base : PackageId
  mapping : RepositoryMapping
  deriving DecidableEq, Inhabited

/-- Everything that a materializer is told about a call. -/
structure Request where
  scope : Scope
  directories : Directories
  semanticsVersion : String
  /-- The handler of the events that the materializer posts. -/
  handler : Reference
  callSite : String
  ruleClass : RuleClass
  values : OrderedMap Value
  deriving DecidableEq

/-- Turns a request into a rule instance or rejects it, posting events on the way. -/
abbrev Materializer := Request → Noted (Except Error Rule)

namespace Scope

/-- The canonical form of a label. -/
def canonical (scope : Scope) (raw : String) : Except Error String :=
  (Label.parse raw scope.base scope.mapping).map Label.canonicalForm

/-- The canonical form of a value that should be a label. -/
def resolveLabel (scope : Scope) (value : Value) : Except Error Value :=
  match value with
  | .text raw => (scope.canonical raw).map .text
  | other =>
      if other.isFalsy then .error .emptyLabel
      else if let .bytes _ := other then .error .labelBytes
      else .error (.labelNotText other.typeName)

/-- The canonical forms of values that should be labels, up to the first failure. -/
def resolveLabels (scope : Scope) : List Value → Except Error (List Value)
  | [] => .ok []
  | first :: rest => do
      let label ← scope.resolveLabel first
      let labels ← scope.resolveLabels rest
      return label :: labels

/-- A value with the labels in it made canonical, as the type of its attribute asks. -/
def resolve (scope : Scope) (type : AttributeType) (value : Value) : Except Error Value :=
  match type with
  | .label => scope.resolveLabel value
  | .labelList =>
      match value.iterate? with
      | some items => (scope.resolveLabels items).map .list
      | none => .error (.notIterable value.typeName)
  | _ => .ok value

end Scope

namespace Attribute

/-- The stored form of a given value, if it fits the attribute. -/
def normalize (schema : Attribute) (rule : String) (scope : Scope) (given : Value) :
    Except Error Value :=
  if schema.type.accepts given then
    (scope.resolve schema.type given).map Value.freezeTop
  else
    .error (.wrongType schema.type schema.name rule given)

/-- The warnings about giving an attribute a value. -/
def warnings (schema : Attribute) (rule : String) : List Event :=
  match schema.deprecated with
  | none => []
  | some note =>
      if note = "" then
        []
      else
        [⟨.warning, "attribute '" ++ schema.name ++ "' of '" ++ rule ++ "' is deprecated: " ++ note,
          none⟩]

/-- Whether the default of an attribute holds labels that have to be read for each call. -/
def hasLabelDefault (schema : Attribute) : Bool :=
  schema.type.holdsLabels && !schema.default.isNull

/-- The stored form of a default that holds labels. -/
def resolvedDefault (schema : Attribute) (scope : Scope) : Except Error Value :=
  (scope.resolve schema.type schema.default).map Value.freezeTop

end Attribute

namespace RuleClass

/-- The stored values of the keywords that are not null, with the warnings about them. -/
def explicitValues (ruleClass : RuleClass) (scope : Scope) :
    List (String × Value) → Noted (Except Error (List (String × Value)))
  | [] => ⟨[], .ok []⟩
  | (key, given) :: rest =>
      match ruleClass.attribute? key with
      | none => ⟨[], .error (.unknownAttribute key ruleClass.name)⟩
      | some schema =>
          if given.isNull then
            ruleClass.explicitValues scope rest
          else
            match schema.normalize ruleClass.name scope given with
            | .error failure => ⟨[], .error failure⟩
            | .ok value =>
                let later := ruleClass.explicitValues scope rest
                ⟨schema.warnings ruleClass.name ++ later.events,
                  later.outcome.map fun values => (key, value) :: values⟩

/-- Reports the first mandatory attribute without a value. -/
def checkMandatory (ruleClass : RuleClass) (values : List (String × Value)) :
    Except Error Unit :=
  match ruleClass.attributes.find? fun schema =>
      schema.mandatory && (values.lookup schema.name).isNone with
  | some schema => .error (.missingAttribute schema.name ruleClass.name)
  | none => .ok ()

/-- The label defaults of those attributes that have no value. -/
def labelDefaults (scope : Scope) (values : List (String × Value)) :
    List Attribute → Except Error (List (String × Value))
  | [] => .ok []
  | schema :: rest =>
      if schema.hasLabelDefault && (values.lookup schema.name).isNone then do
        let value ← schema.resolvedDefault scope
        let others ← labelDefaults scope values rest
        return (schema.name, value) :: others
      else
        labelDefaults scope values rest

/-- The rule instance of stored values, if they are complete. -/
def instantiate (ruleClass : RuleClass) (scope : Scope) (values : List (String × Value)) :
    Except Error Rule := do
  ruleClass.checkMandatory values
  let defaults ← labelDefaults scope values ruleClass.attributes
  match (values.lookup "name").bind Value.text? with
  | some name =>
      return ⟨ruleClass, name, values.filter fun entry => entry.1 ≠ "name", defaults⟩
  | none => .error (.missingAttribute "name" ruleClass.name)

end RuleClass

/-- The materializer that goes by the rule class alone. -/
def Materializer.schema : Materializer := fun request =>
  let explicit := request.ruleClass.explicitValues request.scope request.values.entries
  ⟨explicit.events, explicit.outcome.bind (request.ruleClass.instantiate request.scope)⟩

/-- The materializer that rejects every request with the same error. -/
def Materializer.failing (failure : Error) : Materializer := fun _ => ⟨[], .error failure⟩

end ExternalRepos

import ExternalRepos.Error
import ExternalRepos.OrderedMap
import ExternalRepos.Value.Equality
import ExternalRepos.Value.Frozen

/-!
# Specifications

A specification holds what is needed to instantiate one generated repository
later: the file that defines its rule, the name of the rule, and the attribute
values, frozen so that nobody can change them. The name of the repository is
not an attribute of it.

`equal` disregards the order of the attributes, and `hashKey`, which takes their
names in sorted order and leaves the values out, agrees for equal
specifications.
-/

namespace ExternalRepos

/-- What is needed to instantiate one generated repository. -/
structure Specification where
  /-- The file that defines the rule. -/
  bzlFile : String
  ruleClassName : String
  attributes : OrderedMap Value
  deriving DecidableEq, Inhabited

namespace Specification

/-- The specification of given attribute values, which are frozen; `name` is not allowed. -/
def create (bzlFile ruleClassName : String) (attributes : OrderedMap Value) :
    Except Error Specification :=
  if attributes.contains "name" then
    .error .reservedName
  else
    .ok ⟨bzlFile, ruleClassName, attributes.mapValues fun _ value => value.freeze⟩

/-- The attributes as one value. -/
def attributesValue (specification : Specification) : Value :=
  .map (Value.ofTextEntries specification.attributes.entries)

/-- Whether two specifications ask for the same repository. -/
def equal (left right : Specification) : Bool :=
  left.bzlFile = right.bzlFile && left.ruleClassName = right.ruleClassName &&
    Value.equal left.attributesValue right.attributesValue

/-- The part of a specification that its hash is computed from. -/
def hashKey (specification : Specification) : String × String × List String :=
  (specification.bzlFile, specification.ruleClassName,
    specification.attributes.keys.mergeSort fun left right => decide (left ≤ right))

/-- The parts of a summary: the name, if one is shown, and the attributes in order. -/
def summaryParts (specification : Specification) (name : Option String) : List String :=
  (name.map fun name => "name = " ++ Text.quote name).toList ++
    specification.attributes.entries.map fun entry => entry.1 ++ " = " ++ entry.2.written

/-- A summary on one line. -/
def describe (specification : Specification) (name : Option String) : String :=
  specification.ruleClassName ++ "(" ++
    Value.commaSeparated (specification.summaryParts name) ++ ")"

end Specification

/-- A specification together with the call that declared it. -/
structure Declaration where
  specification : Specification
  location : Location
  deriving DecidableEq, Inhabited

/-- The name of the rule of a declaration. -/
def Declaration.ruleClassName (declaration : Declaration) : String :=
  declaration.specification.ruleClassName

end ExternalRepos

import ExternalRepos.Specification.Basic

/-!
# Specifications as data

The serial form of a specification is a mapping with three keys. Whoever reads
one back gets what the data had: the file and the rule class may be any values,
and so may the keys of the attributes. Only a `name` among the attributes is
refused, and the attribute values are frozen. A typed specification is one of
these (`Specification.untyped`), and is written and summarised in the same way
(`describe_untyped`).
-/

namespace ExternalRepos

/-- What serial forms say about a specification. -/
structure UntypedSpecification where
  bzlFile : Value
  ruleClassName : Value
  /-- The attributes in order; their values are frozen. -/
  attributes : List (Value × Value)
  deriving DecidableEq, Inhabited

namespace UntypedSpecification

/-- The key of the file that defines the rule. -/
def bzlFileKey : String := "bzl_file"

/-- The key of the rule class. -/
def ruleClassNameKey : String := "rule_class_name"

/-- The key of the attributes. -/
def attributesKey : String := "attributes"

/-- The serial form, made of values that their receiver may change. -/
def toValue (specification : UntypedSpecification) : Value :=
  .dict (Value.ofTextEntries [
    (bzlFileKey, specification.bzlFile),
    (ruleClassNameKey, specification.ruleClassName),
    (attributesKey, .dict (Value.thawEntries specification.attributes))])

/-- A field that a serial form must have. -/
def requiredField (data : Value) (key : String) : Except Error Value :=
  match data.field? key with
  | some value => .ok value
  | none => .error (.missingKey key)

/-- The entries of a value that is given as attributes; none of them may be called `name`. -/
def attributeEntries (given : Value) : Except Error (List (Value × Value)) :=
  match given.holds? "name", given.entries? with
  | none, _ => .error (.notIterable given.typeName)
  | some true, _ => .error .reservedName
  | some false, none => .error (.noBindings given.typeName)
  | some false, some entries => .ok entries

/-- The attributes of a serial form; none if they are missing. -/
def attributesField (data : Value) : Except Error (List (Value × Value)) :=
  match data.field? attributesKey with
  | none => .ok []
  | some given => attributeEntries given

/-- Reads a serial form. -/
def ofValue (data : Value) : Except Error UntypedSpecification :=
  match data.entries? with
  | none => .error (.notBound bzlFileKey data.typeName)
  | some _ => do
      let bzlFile ← requiredField data bzlFileKey
      let ruleClassName ← requiredField data ruleClassNameKey
      let attributes ← attributesField data
      return ⟨bzlFile, ruleClassName, Value.freezeEntries attributes⟩

/-- A summary on one line. -/
def describe (specification : UntypedSpecification) (name : Option String) : String :=
  specification.ruleClassName.asText ++ "(" ++
    Value.commaSeparated ((name.map fun name => "name = " ++ Text.quote name).toList ++
      specification.attributes.map fun entry => entry.1.asText ++ " = " ++ entry.2.written) ++ ")"

end UntypedSpecification

namespace Specification

/-- A specification without its types. -/
def untyped (specification : Specification) : UntypedSpecification where
  bzlFile := .text specification.bzlFile
  ruleClassName := .text specification.ruleClassName
  attributes := Value.ofTextEntries specification.attributes.entries

/-- The serial form, made of values that their receiver may change. -/
def toValue (specification : Specification) : Value :=
  specification.untyped.toValue

theorem describe_untyped (specification : Specification) (name : Option String) :
    specification.untyped.describe name = specification.describe name := by
  simp [UntypedSpecification.describe, describe, summaryParts, untyped, Value.asText,
    Value.ofTextEntries, Function.comp_def]

end Specification

end ExternalRepos

import ExternalRepos.Value.Basic

/-!
# Attribute types

The types that a rule may give its attributes, the values that each of them
accepts, and the value of an attribute that nobody set. Acceptance is strict:
nothing is converted, a truth value is no integer, and tuples and unchangeable
mappings count as the lists and mappings they were made from.
-/

namespace ExternalRepos

/-- The type of a rule attribute. -/
inductive AttributeType
  | string
  | int
  | bool
  | stringList
  | stringDict
  | label
  | labelList
  deriving DecidableEq, Inhabited

namespace AttributeType

/-- The name of a type in schemas and diagnostics. -/
def name : AttributeType → String
  | .string => "string"
  | .int => "int"
  | .bool => "bool"
  | .stringList => "string_list"
  | .stringDict => "string_dict"
  | .label => "label"
  | .labelList => "label_list"

/-- Every type. -/
def all : List AttributeType :=
  [.string, .int, .bool, .stringList, .stringDict, .label, .labelList]

/-- The type of a given name. -/
def ofName? (name : String) : Option AttributeType :=
  all.find? fun type => type.name = name

/-- Whether the values of a type are labels. -/
def holdsLabels : AttributeType → Bool
  | .label => true
  | .labelList => true
  | _ => false

/-- Whether a value is a text. -/
def isText (value : Value) : Bool :=
  value.text?.isSome

/-- Whether a value is a sequence of texts. -/
def isTextSequence : Value → Bool
  | .list items => items.all isText
  | .tuple items => items.all isText
  | _ => false

/-- Whether a value is a mapping from texts to texts. -/
def isTextMapping (value : Value) : Bool :=
  value.entries?.any fun entries =>
    entries.all fun entry => isText entry.1 && isText entry.2

/-- Whether a type accepts a value. -/
def accepts : AttributeType → Value → Bool
  | .string, value => isText value
  | .int, .int _ => true
  | .bool, .bool _ => true
  | .stringList, value => isTextSequence value
  | .stringDict, value => isTextMapping value
  | .label, value => isText value
  | .labelList, value => isTextSequence value
  | _, _ => false

/-- The value of an attribute that has no default. -/
def zero : AttributeType → Value
  | .string => .text ""
  | .int => .int 0
  | .bool => .bool false
  | .stringList => .tuple []
  | .stringDict => .map []
  | .label => .null
  | .labelList => .tuple []

end AttributeType

end ExternalRepos

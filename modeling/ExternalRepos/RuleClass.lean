import ExternalRepos.AttributeType
import ExternalRepos.Label.Parser
import ExternalRepos.Value.Frozen

/-!
# Rule classes

A rule class is the schema of a repository rule: its attributes and the label
of the file that defines it. Every rule has a mandatory text attribute `name`
besides those it declares, so a schema may neither declare `name` nor repeat a
name; this is part of the type, and `RuleClass.create` reports the first
attribute that would break it.
-/

namespace ExternalRepos

/-- The schema of one attribute. -/
structure Attribute where
  name : String
  type : AttributeType
  /-- The value of an attribute that nobody set; null when the schema gives none. -/
  default : Value
  mandatory : Bool
  /-- Why the attribute should not be set any more. -/
  deprecated : Option String
  doc : String
  deriving DecidableEq, Inhabited

namespace Attribute

/-- The attribute that every rule has. -/
def nameAttribute : Attribute := ⟨"name", .string, .null, true, none, ""⟩

/-- The type of a given name in a schema. -/
def typeNamed (name : String) : Except Error AttributeType :=
  match AttributeType.ofName? name with
  | some type => .ok type
  | none => .error (.unknownAttributeType name)

/-- The default with its outermost container made unchangeable, or the zero of the type. -/
def defaultValue (schema : Attribute) : Value :=
  if schema.default.isNull then schema.type.zero else schema.default.freezeTop

end Attribute

/-- The schema of a repository rule. -/
structure RuleClass where
  name : String
  /-- The file that defines the rule. -/
  definition : Label
  /-- The declared attributes; `name` is not among them. -/
  attributes : List Attribute
  doc : String
  /-- No two attributes, the implied one included, have the same name. -/
  names_nodup : ("name" :: attributes.map Attribute.name).Nodup
  deriving DecidableEq

namespace RuleClass

/-- Reports the first attribute that is called `name` or repeats an earlier name. -/
def checkNames (rule : String) : (seen : List String) → List Attribute → Except Error Unit
  | _, [] => .ok ()
  | seen, first :: rest =>
      if first.name = "name" then .error (.redefinedName rule)
      else if seen.contains first.name then .error (.duplicateAttribute first.name rule)
      else checkNames rule (first.name :: seen) rest

theorem nodup_of_checkNames {rule : String} {seen : List String} {attributes : List Attribute}
    (success : checkNames rule seen attributes = .ok ()) :
    ("name" :: attributes.map Attribute.name).Nodup ∧
      ∀ schema ∈ attributes, schema.name ∉ seen := by
  induction attributes generalizing seen with
  | nil => simp
  | cons first rest ih =>
      by_cases reserved : first.name = "name"
      · simp [checkNames, reserved] at success
      · by_cases repeated : first.name ∈ seen
        · simp [checkNames, reserved, repeated] at success
        · simp only [checkNames, reserved, if_false, List.contains_eq_mem, repeated,
            decide_false, Bool.false_eq_true] at success
          obtain ⟨nodup, fresh⟩ := ih success
          simp only [List.nodup_cons, List.mem_map, not_exists, not_and] at nodup
          refine ⟨?_, ?_⟩
          · simp only [List.map_cons, List.nodup_cons, List.mem_cons, List.mem_map, not_or,
              not_exists, not_and]
            refine ⟨⟨fun equal => reserved equal.symm, nodup.1⟩, ?_, nodup.2⟩
            intro schema schemaMem equal
            exact fresh schema schemaMem (by simp [equal])
          · intro schema schemaMem
            rcases List.mem_cons.1 schemaMem with rfl | later
            · exact repeated
            · intro earlier
              exact fresh schema later (List.mem_cons_of_mem _ earlier)

/-- The schema of a rule, unless its attributes clash. -/
def create (name : String) (definition : Label) (attributes : List Attribute) (doc : String) :
    Except Error RuleClass :=
  match result : checkNames name [] attributes with
  | .error failure => .error failure
  | .ok () => .ok ⟨name, definition, attributes, doc, (nodup_of_checkNames result).1⟩

/-- The file that defines a rule if nothing else is said. -/
def defaultDefinition : String := "//:extensions.bzl"

/-- The schema of a rule whose defining file is given by a label relative to the main repository. -/
def define (name definition : String) (attributes : List Attribute) (doc : String) :
    Except Error RuleClass := do
  let label ← Label.parse definition .root .empty
  create name label attributes doc

/-- The attribute of a given name, the implied one included. -/
def attribute? (ruleClass : RuleClass) (name : String) : Option Attribute :=
  if name = "name" then some Attribute.nameAttribute
  else ruleClass.attributes.find? fun schema => schema.name = name

/-- Every attribute, the implied one first. -/
def allAttributes (ruleClass : RuleClass) : List Attribute :=
  Attribute.nameAttribute :: ruleClass.attributes

/-- The names of all attributes, the implied one first. -/
def attributeNames (ruleClass : RuleClass) : List String :=
  ruleClass.allAttributes.map Attribute.name

/-- How a rule shows itself. -/
def written (ruleClass : RuleClass) : String :=
  "<repository rule " ++ ruleClass.name ++ ">"

end RuleClass

end ExternalRepos

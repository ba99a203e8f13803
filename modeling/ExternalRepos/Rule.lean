import ExternalRepos.RuleClass

/-!
# Rules

A rule is an instance of a rule class: a name, the values that were given, and
the defaults that had to be resolved for this instance. Reading an attribute
falls back from the first of these to the last, and then to the default of the
schema.
-/

namespace ExternalRepos

/-- An instance of a rule class. -/
structure Rule where
  ruleClass : RuleClass
  name : String
  /-- The values given explicitly. -/
  values : List (String × Value)
  /-- The defaults resolved for this instance. -/
  defaults : List (String × Value)
  deriving DecidableEq

namespace Rule

/-- The value of an attribute. -/
def read (rule : Rule) (key : String) : Except Error Value :=
  if key = "name" then
    .ok (.text rule.name)
  else
    match rule.values.lookup key with
    | some value => .ok value
    | none =>
        match rule.defaults.lookup key with
        | some value => .ok value
        | none =>
            match rule.ruleClass.attribute? key with
            | some schema => .ok schema.defaultValue
            | none => .error (.noSuchAttribute key rule.ruleClass.name)

/-- Whether a value was given for an attribute; a name always is. -/
def isExplicit (rule : Rule) (key : String) : Bool :=
  key = "name" || (rule.values.lookup key).isSome

/-- How a rule instance shows itself. -/
def written (rule : Rule) : String :=
  "Rule(" ++ Text.quote rule.ruleClass.name ++ ", name=" ++ Text.quote rule.name ++ ")"

@[simp]
theorem read_name (rule : Rule) : rule.read "name" = .ok (.text rule.name) := by
  simp [read]

end Rule

end ExternalRepos

import ExternalRepos.Proofs.Materializer.Outcome
import ExternalRepos.Proofs.Registry.Schema

/-!
# The outcome of a declaration

A declaration under the schema materializer is decided by four conditions in order:
the registry is open, the keywords choose a name, no earlier declaration has it, and
the materializer makes a rule. `Registry.Answers` has one case for each condition that
can fail first, and one for none; `Registry.Decides` says the same as equivalences,
which read off an outcome why it is the one.

Two things are not among the conditions because they cannot fail. Every key that the
materializer has accepted can be read from the rule, and `name` is never among the
attributes of the specification. And since the materializer itself fails with errors of
three classes only (`RuleClass.Rejects.rejectsValues`), each of its failures comes out
wrapped.
-/

namespace ExternalRepos

/-! ## The classes of rejections -/

theorem ErrorKind.rejectsValues_iff {kind : ErrorKind} :
    kind.rejectsValues = true ↔
      kind = .invalidRule ∨ kind = .labelSyntax ∨ kind = .packageLookup := by
  cases kind <;> simp [rejectsValues]

theorem FirstFault.exists_faulty {α : Type} {faulty : α → Error → Prop} {items : List α}
    {failure : Error} (first : FirstFault faulty items failure) :
    ∃ item ∈ items, faulty item failure := by
  rcases first with ⟨earlier, item, later, rfl, _, fault⟩
  exact ⟨item, by simp, fault⟩

theorem Scope.rejectsValues_of_unreadable {scope : Scope} {raws : List String} {failure : Error}
    (unreadable : FirstFault scope.Unreadable raws failure) :
    failure.kind.rejectsValues = true := by
  rcases unreadable.exists_faulty with ⟨raw, _, failed⟩
  rcases Label.kind_of_parse failed with kind | ⟨kind, _⟩
  · rw [kind]
    rfl
  · rw [kind]
    rfl

/-- Keywords are rejected with an error about the rule, or about a label in it. -/
theorem RuleClass.Rejects.rejectsValues {ruleClass : RuleClass} {scope : Scope}
    {keywords : OrderedMap Value} {failure : Error}
    (rejects : ruleClass.Rejects scope keywords failure) : failure.kind.rejectsValues = true := by
  cases rejects with
  | keyword faults =>
      rcases faults.exists_faulty with ⟨entry, _, fault⟩
      cases fault with
      | unknown => rfl
      | type => rfl
      | label _ _ unreadable => exact Scope.rejectsValues_of_unreadable unreadable
  | incomplete _ lacks =>
      cases lacks with
      | value missing =>
          rcases missing.exists_faulty with ⟨schema, _, _, _, rfl⟩
          rfl
      | default _ unreadable =>
          rcases unreadable.exists_faulty with ⟨schema, _, _, unreadable⟩
          exact Scope.rejectsValues_of_unreadable unreadable
      | name => rfl

namespace Registry

/-! ## The answer of a registry -/

/-- Keywords choose a name that users may choose. -/
def Chooses (values : OrderedMap Value) (name : String) : Prop :=
  values.get? "name" = some (.text name) ∧ isUserProvided name = true

/--
What a declaration comes to, given the seal of the registry, the names that were declared
in it, each with its location, and what the materializer makes of the keywords under the
chosen name.
-/
inductive Answers (isSealed : Prop) (declared : String → Location → Prop)
    (materialized : String → Except Error Rule) (values : OrderedMap Value)
    (ruleClass : RuleClass) : Except Error Specification → Prop
  | sealed {failure : Error} (closed : isSealed) (kind : failure.kind = .registrySealed) :
      Answers isSealed declared materialized values ruleClass (.error failure)
  | unnamed {failure : Error} (isOpen : ¬isSealed) (unnamed : ∀ name, ¬Chooses values name)
      (kind : failure.kind = .repositoryName) :
      Answers isSealed declared materialized values ruleClass (.error failure)
  | conflict {name : String} {first : Location} (isOpen : ¬isSealed)
      (chosen : Chooses values name) (earlier : declared name first) :
      Answers isSealed declared materialized values ruleClass (.error (.conflict name first))
  | rejected {name : String} {cause : Error} (isOpen : ¬isSealed) (chosen : Chooses values name)
      (fresh : ∀ first, ¬declared name first) (failed : materialized name = .error cause)
      (rejects : cause.kind.rejectsValues = true) :
      Answers isSealed declared materialized values ruleClass (.error (.rejected cause))
  | accepted {name : String} {rule : Rule} {specification : Specification} (isOpen : ¬isSealed)
      (chosen : Chooses values name) (fresh : ∀ first, ¬declared name first)
      (made : materialized name = .ok rule)
      (bzlFile : specification.bzlFile = ruleClass.definition.canonicalForm)
      (ruleClassName : specification.ruleClassName = ruleClass.name) :
      Answers isSealed declared materialized values ruleClass (.ok specification)

variable {registry : Registry} {values : OrderedMap Value} {ruleClass : RuleClass}

/-- What the three checks before the materializer come to. -/
theorem newName_cases (registry : Registry) (values : OrderedMap Value) :
    (registry.isSealed = true ∧
      registry.newName values = .error (.sealed registry.repoPrefix)) ∨
    (registry.isSealed = false ∧ (∀ name, ¬Chooses values name) ∧
      ∃ failure, registry.newName values = .error failure ∧ failure.kind = .repositoryName) ∨
    (registry.isSealed = false ∧ ∃ name, Chooses values name ∧
      ((∃ first, registry.locationOf name = some first ∧
          registry.newName values = .error (.conflict name first)) ∨
        registry.locationOf name = none ∧ registry.newName values = .ok name)) := by
  unfold newName
  split
  · rename_i isSealed
    exact Or.inl ⟨isSealed, rfl⟩
  · rename_i notSealed
    refine Or.inr ?_
    have isOpen : registry.isSealed = false := by simpa using notSealed
    split
    · rename_i name named
      split
      · rename_i allowed
        refine Or.inr ⟨isOpen, name, ⟨named, allowed⟩, ?_⟩
        split
        · rename_i earlier found
          exact Or.inl ⟨earlier.location, by simp [locationOf, found], rfl⟩
        · rename_i fresh
          exact Or.inr ⟨by simp [locationOf, fresh], rfl⟩
      · rename_i forbidden
        refine Or.inl ⟨isOpen, ?_, _, rfl, rfl⟩
        rintro other ⟨again, allowed⟩
        rw [named] at again
        cases again
        exact forbidden allowed
    · rename_i other notText given
      refine Or.inl ⟨isOpen, ?_, _, rfl, rfl⟩
      rintro name ⟨named, _⟩
      rw [given] at named
      cases named
      exact notText name rfl
    · rename_i missing
      refine Or.inl ⟨isOpen, ?_, _, rfl, rfl⟩
      rintro name ⟨named, _⟩
      rw [missing] at named
      cases named

theorem declare_answers (bySchema : registry.materializer = .schema)
    (textDefaults : ∀ schema ∈ ruleClass.attributes, schema.HasTextDefault)
    (values : OrderedMap Value) (location : Location) (version : String) :
    Answers (registry.isSealed = true) (fun name first => registry.locationOf name = some first)
      (fun name => (Materializer.schema (registry.request name values ruleClass version)).outcome)
      values ruleClass (registry.declare values ruleClass location version).outcome := by
  rcases registry.newName_cases values with
    ⟨isSealed, _⟩ | ⟨isOpen, unnamed, failure, failed, kind⟩ |
      ⟨isOpen, name, chosen, ⟨first, earlier, failed⟩ | ⟨fresh, named⟩⟩
  · rw [declare_of_isSealed isSealed]
    exact .sealed isSealed rfl
  · simp only [declare, failed]
    exact .unnamed (by simp [isOpen]) unnamed kind
  · simp only [declare, failed]
    exact .conflict (by simp [isOpen]) chosen earlier
  · have noneFirst : ∀ first, registry.locationOf name ≠ some first := by simp [fresh]
    let request := registry.request name values ruleClass version
    rcases made : (Materializer.schema request).outcome with cause | rule
    · have rejects := ((Materializer.schema_eq_error_iff textDefaults).1 made).rejectsValues
      rw [outcome_declare_of_newName named, bySchema, made]
      simp only [Except.mapError, materializerFailure, rejects, if_true]
      exact .rejected (by simp [isOpen]) chosen noneFirst made rejects
    · have admits : ruleClass.Admits registry.scope values :=
        (registry.admits_substituted_iff name).1 (Materializer.admits_of_schema_eq_ok made)
      rcases exists_declare_of_admits bySchema named admits location version with
        ⟨specification, declared⟩
      have specifies := specifies_of_declare bySchema declared
      rw [declared]
      exact .accepted (by simp [isOpen]) chosen noneFirst made specifies.bzlFile
        specifies.ruleClassName

/-- Which outcome a declaration has, and when. -/
structure Decides (isSealed : Prop) (declared : String → Location → Prop)
    (materialized : String → Except Error Rule) (values : OrderedMap Value)
    (ruleClass : RuleClass) (outcome : Except Error Specification) : Prop where
  registrySealed :
    (∃ failure, outcome = .error failure ∧ failure.kind = .registrySealed) ↔ isSealed
  repositoryName :
    (∃ failure, outcome = .error failure ∧ failure.kind = .repositoryName) ↔
      ¬isSealed ∧ ∀ name, ¬Chooses values name
  repositoryConflict : ∀ name first, outcome = .error (.conflict name first) ↔
    ¬isSealed ∧ Chooses values name ∧ declared name first
  schemaValidation : ∀ cause, outcome = .error (.rejected cause) ↔
    ¬isSealed ∧ ∃ name, Chooses values name ∧ (∀ first, ¬declared name first) ∧
      materialized name = .error cause
  success : (∃ specification, outcome = .ok specification) ↔
    ¬isSealed ∧ ∃ name, Chooses values name ∧ (∀ first, ¬declared name first) ∧
      ∃ rule, materialized name = .ok rule
  specification : ∀ specification, outcome = .ok specification →
    specification.bzlFile = ruleClass.definition.canonicalForm ∧
      specification.ruleClassName = ruleClass.name
  /-- No other errors come out. -/
  exhaustive : ∀ failure, outcome = .error failure →
    failure.kind = .registrySealed ∨ failure.kind = .repositoryName ∨
      failure.kind = .repositoryConflict ∨ failure.kind = .schemaValidation
  /-- A conflict names the earlier declaration. -/
  names : ∀ failure, outcome = .error failure → failure.kind = .repositoryConflict →
    ∃ name first, failure = .conflict name first
  /-- A rejection has the text of its cause. -/
  wraps : ∀ failure, outcome = .error failure → failure.kind = .schemaValidation →
    ∃ cause, failure = .rejected cause ∧ failure.message = cause.message ∧
      failure.cause? = some cause ∧
      (cause.kind = .invalidRule ∨ cause.kind = .labelSyntax ∨ cause.kind = .packageLookup)

/-- Keywords choose one name, which has one location: the cases of an answer exclude each other. -/
theorem Answers.decides {isSealed : Prop} {declared : String → Location → Prop}
    {materialized : String → Except Error Rule} {outcome : Except Error Specification}
    (once : ∀ name first second, declared name first → declared name second → first = second)
    (answers : Answers isSealed declared materialized values ruleClass outcome) :
    Decides isSealed declared materialized values ruleClass outcome := by
  have unique : ∀ {name other}, Chooses values name → Chooses values other → name = other := by
    rintro name other ⟨named, _⟩ ⟨again, _⟩
    rw [named] at again
    cases again
    rfl
  cases answers with
  | sealed | unnamed | conflict | accepted => constructor <;> grind [Error.kind]
  | @rejected _ cause _ _ _ _ rejects =>
      constructor
      case wraps =>
        rintro _ ⟨⟩ _
        exact ⟨cause, rfl, rfl, rfl, ErrorKind.rejectsValues_iff.1 rejects⟩
      all_goals grind [Error.kind]

end Registry

end ExternalRepos

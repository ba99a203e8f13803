import ExternalRepos.Proofs.Materializer.Schema
import ExternalRepos.Proofs.Registry.Log
import ExternalRepos.Proofs.Specification.Serial

/-!
# Declarations under the schema materializer

A declaration succeeds if its name is new, the materializer makes a rule, and the
rule can be read at every key that was given (`declare_eq_ok_iff`). With the
schema materializer the last of these always holds, so what decides is the name
and whether the rule class admits the keywords (`exists_declare_of_admits`). The
specification then lists the keys of the call without `name` and in the order of
the call, each with the frozen value of its attribute (`specifies_of_declare`),
and it is the only one that does (`RuleClass.Specifies.unique`).

Frozen values fit their attributes again and stand for themselves. Keywords that
give them back, in their order and next to any name, are therefore admitted and
make the same specification (`declare_reused`).
-/

namespace ExternalRepos

/-- The specification that a rule class makes of keywords in a scope. -/
structure RuleClass.Specifies (ruleClass : RuleClass) (scope : Scope) (values : OrderedMap Value)
    (specification : Specification) : Prop where
  bzlFile : specification.bzlFile = ruleClass.definition.canonicalForm
  ruleClassName : specification.ruleClassName = ruleClass.name
  keys : specification.attributes.keys = values.keys.filter fun key => key ≠ "name"
  value : ∀ schema ∈ ruleClass.attributes, ∀ stored,
    specification.attributes.get? schema.name = some stored →
      ∃ read, schema.valueFor ruleClass.name scope (values.given schema.name) = .ok read ∧
        stored = read.freeze

namespace RuleClass

variable {ruleClass : RuleClass} {scope : Scope} {values others : OrderedMap Value}

/-- The name among the keywords is not for the rule class to judge. -/
theorem Admits.of_given_eq (admits : ruleClass.Admits scope values)
    (keys : others.keys = values.keys)
    (given : ∀ key, key ≠ "name" → others.given key = values.given key) :
    ruleClass.Admits scope others := by
  have same : ∀ schema ∈ ruleClass.attributes,
      others.given schema.name = values.given schema.name := fun schema schemaMem =>
    given schema.name (name_ne_of_mem schemaMem)
  refine admits.congr ?_ ?_ fun schema schemaMem _ => same schema schemaMem
  · rw [keys]
    exact admits.known
  · intro schema schemaMem
    rw [same schema schemaMem]

theorem Specifies.mem_keys_iff {specification : Specification}
    (specifies : ruleClass.Specifies scope values specification) {key : String} :
    key ∈ specification.attributes.keys ↔ key ∈ values.keys ∧ key ≠ "name" := by
  rw [specifies.keys, List.mem_filter, decide_eq_true_eq]

theorem Specifies.unique {specification other : Specification}
    (specifies : ruleClass.Specifies scope values specification)
    (specifiesOther : ruleClass.Specifies scope values other)
    (admits : ruleClass.Admits scope values) : specification = other := by
  have attributes : specification.attributes = other.attributes := by
    apply OrderedMap.ext_get?
    · rw [specifies.keys, specifiesOther.keys]
    · intro key keyMem
      rcases specifies.mem_keys_iff.1 keyMem with ⟨given, notName⟩
      have otherMem := specifiesOther.mem_keys_iff.2 ⟨given, notName⟩
      rcases admits.known key given notName with ⟨schema, schemaMem, rfl⟩
      rcases OrderedMap.exists_get?_of_mem_keys keyMem with ⟨stored, storedEq⟩
      rcases OrderedMap.exists_get?_of_mem_keys otherMem with ⟨otherStored, otherStoredEq⟩
      rcases specifies.value schema schemaMem stored storedEq with ⟨read, readEq, rfl⟩
      rcases specifiesOther.value schema schemaMem otherStored otherStoredEq with
        ⟨otherRead, otherReadEq, rfl⟩
      rw [readEq] at otherReadEq
      cases otherReadEq
      rw [storedEq, otherStoredEq]
  have bzlFile := specifies.bzlFile.trans specifiesOther.bzlFile.symm
  have ruleClassName := specifies.ruleClassName.trans specifiesOther.ruleClassName.symm
  rcases specification with ⟨_, _, _⟩
  rcases other with ⟨_, _, _⟩
  cases attributes
  cases bzlFile
  cases ruleClassName
  rfl

/-! ### Keywords that reuse the stored values -/

section Reused

variable {specification : Specification} {schema : Attribute} {repository : RepositoryName}

theorem given_of_erase_eq (reused : others.erase "name" = specification.attributes) {key : String}
    (notName : key ≠ "name") : others.given key = specification.attributes.given key := by
  rw [OrderedMap.given, OrderedMap.given, ← reused, OrderedMap.get?_erase_of_ne _ notName]

/-- A key is not stored only if it was not given. -/
theorem Specifies.given_eq_null (specifies : ruleClass.Specifies scope values specification)
    {key : String} (notName : key ≠ "name")
    (absent : specification.attributes.get? key = none) : values.given key = .null := by
  apply OrderedMap.given_of_not_mem
  rw [OrderedMap.get?_eq_none_iff] at absent
  intro keyMem
  exact absent (specifies.mem_keys_iff.2 ⟨keyMem, notName⟩)

/-- An attribute has the same value again when it is given what is stored for it. -/
theorem Specifies.valueFor_stored
    (proper : RepositoryName.create scope.base.repository.name = .ok repository)
    (specifies : ruleClass.Specifies scope values specification)
    (schemaMem : schema ∈ ruleClass.attributes) (properDefault : schema.HasProperDefault)
    {value : Value}
    (found : schema.valueFor ruleClass.name scope (values.given schema.name) = .ok value) :
    schema.valueFor ruleClass.name scope (specification.attributes.given schema.name) =
      .ok value := by
  rcases bound : specification.attributes.get? schema.name with _ | stored
  · rw [specifies.given_eq_null (name_ne_of_mem schemaMem) bound] at found
    rw [OrderedMap.given, bound]
    exact found
  · rcases specifies.value schema schemaMem stored bound with ⟨read, readFound, rfl⟩
    rw [found] at readFound
    cases readFound
    rw [OrderedMap.given, bound]
    exact Attribute.valueFor_freeze_of_valueFor proper properDefault found

theorem Specifies.given_stored_ne_null
    (proper : RepositoryName.create scope.base.repository.name = .ok repository)
    (specifies : ruleClass.Specifies scope values specification)
    (schemaMem : schema ∈ ruleClass.attributes) (properDefault : schema.HasProperDefault)
    (given : values.given schema.name ≠ .null) :
    specification.attributes.given schema.name ≠ .null := by
  rcases bound : specification.attributes.get? schema.name with _ | stored
  · exact absurd (specifies.given_eq_null (name_ne_of_mem schemaMem) bound) given
  · rcases specifies.value schema schemaMem stored bound with ⟨read, found, rfl⟩
    rw [OrderedMap.given, bound]
    rcases Attribute.stores_of_valueFor proper properDefault found with stores | ⟨absent, _⟩
    · show read.freeze ≠ .null
      rw [stores.isFrozen.freeze_eq]
      exact stores.ne_null
    · exact absurd absent given

variable (proper : RepositoryName.create scope.base.repository.name = .ok repository)
  (properDefaults : ∀ schema ∈ ruleClass.attributes, schema.HasProperDefault)
  (specifies : ruleClass.Specifies scope values specification)
  (reused : others.erase "name" = specification.attributes)

include proper properDefaults specifies reused

theorem Specifies.admits_reused (admits : ruleClass.Admits scope values) :
    ruleClass.Admits scope others where
  known := by
    intro key keyMem notName
    have stored : key ∈ specification.attributes.keys := by
      rw [← reused, OrderedMap.keys_erase, List.mem_filter, decide_eq_true_eq]
      exact ⟨keyMem, notName⟩
    exact admits.known key (specifies.mem_keys_iff.1 stored).1 notName
  fits := by
    intro schema schemaMem
    rcases admits.fits schema schemaMem with ⟨value, found⟩
    rw [given_of_erase_eq reused (name_ne_of_mem schemaMem)]
    have properDefault := properDefaults schema schemaMem
    exact ⟨value, specifies.valueFor_stored proper schemaMem properDefault found⟩
  mandatory := by
    intro schema schemaMem mandatory
    rw [given_of_erase_eq reused (name_ne_of_mem schemaMem)]
    exact specifies.given_stored_ne_null proper schemaMem (properDefaults schema schemaMem)
      (admits.mandatory schema schemaMem mandatory)

theorem Specifies.specifies_reused : ruleClass.Specifies scope others specification where
  bzlFile := specifies.bzlFile
  ruleClassName := specifies.ruleClassName
  keys := by rw [← reused, OrderedMap.keys_erase]
  value := by
    intro schema schemaMem stored bound
    rcases specifies.value schema schemaMem stored bound with ⟨read, found, rfl⟩
    rw [given_of_erase_eq reused (name_ne_of_mem schemaMem)]
    have properDefault := properDefaults schema schemaMem
    exact ⟨read, specifies.valueFor_stored proper schemaMem properDefault found, rfl⟩

end Reused

end RuleClass

namespace Registry

variable {registry : Registry} {values : OrderedMap Value} {ruleClass : RuleClass}
  {location : Location} {semanticsVersion : String} {specification : Specification}

theorem outcome_declare_of_newName {name : String} (named : registry.newName values = .ok name) :
    (registry.declare values ruleClass location semanticsVersion).outcome =
      ((registry.materializer (registry.request name values ruleClass semanticsVersion)).outcome
        |>.mapError materializerFailure).bind (specificationOf ruleClass values) := by
  simp only [declare, named]
  split
  · rename_i failed
    rw [failed]
  · rename_i succeeded
    rw [succeeded]

theorem request_declare_of_newName {name : String} (named : registry.newName values = .ok name) :
    (registry.declare values ruleClass location semanticsVersion).request =
      some (registry.request name values ruleClass semanticsVersion) := by
  simp only [declare, named]
  split <;> rfl

theorem events_declare_of_newName {name : String} (named : registry.newName values = .ok name) :
    (registry.declare values ruleClass location semanticsVersion).events =
      (registry.materializer (registry.request name values ruleClass semanticsVersion)).events := by
  simp only [declare, named]
  split <;> rfl

/-- A successful declaration has a new name, a rule, and a specification read from it. -/
theorem declare_eq_ok_iff :
    (registry.declare values ruleClass location semanticsVersion).outcome = .ok specification ↔
      ∃ name rule, registry.newName values = .ok name ∧
        (registry.materializer
          (registry.request name values ruleClass semanticsVersion)).outcome = .ok rule ∧
        specificationOf ruleClass values rule = .ok specification := by
  rcases named : registry.newName values with failure | name
  · simp [declare, named]
  · rw [outcome_declare_of_newName named]
    constructor
    · intro succeeded
      rcases exists_of_bind_eq_ok succeeded with ⟨rule, materialized, specified⟩
      refine ⟨name, rule, rfl, ?_, specified⟩
      rcases reply : (registry.materializer
        (registry.request name values ruleClass semanticsVersion)).outcome with failure | made
      · rw [reply] at materialized
        cases materialized
      · rw [reply] at materialized
        cases materialized
        rfl
    · rintro ⟨same, rule, sameEq, materialized, specified⟩
      cases sameEq
      rw [materialized]
      exact specified

theorem keys_substituted (registry : Registry) (name : String) (values : OrderedMap Value) :
    (registry.substituted name values).keys = values.keys :=
  values.keys_mapValues _

theorem given_substituted (registry : Registry) (name : String) (values : OrderedMap Value)
    {key : String} (notName : key ≠ "name") :
    (registry.substituted name values).given key = values.given key := by
  simp [OrderedMap.given, substituted, OrderedMap.get?_mapValues, notName]

theorem get?_name_substituted (registry : Registry) {name : String}
    (given : values.get? "name" = some (.text name)) :
    (registry.substituted name values).get? "name" =
      some (.text (registry.repoPrefix ++ name)) := by
  rw [substituted, OrderedMap.get?_mapValues, given]
  rfl

theorem admits_substituted_iff (registry : Registry) (name : String) :
    ruleClass.Admits registry.scope (registry.substituted name values) ↔
      ruleClass.Admits registry.scope values := by
  constructor
  · intro admits
    apply admits.of_given_eq (registry.keys_substituted name values).symm
    intro key notName
    exact (registry.given_substituted name values notName).symm
  · intro admits
    apply admits.of_given_eq (registry.keys_substituted name values)
    intro key notName
    exact registry.given_substituted name values notName

theorem admits_of_declare (bySchema : registry.materializer = .schema)
    (declared : (registry.declare values ruleClass location semanticsVersion).outcome =
      .ok specification) : ruleClass.Admits registry.scope values := by
  rcases declare_eq_ok_iff.1 declared with ⟨name, rule, _, materialized, _⟩
  rw [bySchema] at materialized
  exact (registry.admits_substituted_iff name).1
    (Materializer.admits_of_schema_eq_ok materialized)

theorem specifies_of_declare (bySchema : registry.materializer = .schema)
    (declared : (registry.declare values ruleClass location semanticsVersion).outcome =
      .ok specification) : ruleClass.Specifies registry.scope values specification := by
  rcases declare_eq_ok_iff.1 declared with ⟨name, rule, _, materialized, specified⟩
  rw [bySchema] at materialized
  rcases exists_of_bind_eq_ok specified with ⟨attributes, traversed, created⟩
  rcases Specification.create_eq_ok_iff.1 created with ⟨_, rfl⟩
  refine ⟨rfl, rfl, ?_, ?_⟩
  · rw [OrderedMap.keys_mapValues, OrderedMap.keys_of_traverse traversed, OrderedMap.keys_erase]
  · intro schema schemaMem stored storedEq
    rw [OrderedMap.get?_mapValues, Option.map_eq_some_iff] at storedEq
    rcases storedEq with ⟨read, readEq, rfl⟩
    rcases OrderedMap.exists_of_get?_traverse traversed readEq with ⟨_, _, ruleRead⟩
    rcases Materializer.exists_read_of_schema_eq_ok materialized schemaMem with
      ⟨value, valueEq, valueRead⟩
    rw [ruleRead] at valueRead
    cases valueRead
    refine ⟨read, ?_, rfl⟩
    rw [← registry.given_substituted name values (RuleClass.name_ne_of_mem schemaMem)]
    exact valueEq

/-- With a new name, the keywords that a rule class admits can be declared. -/
theorem exists_declare_of_admits (bySchema : registry.materializer = .schema) {name : String}
    (named : registry.newName values = .ok name)
    (admits : ruleClass.Admits registry.scope values) (location : Location)
    (semanticsVersion : String) :
    ∃ specification,
      (registry.declare values ruleClass location semanticsVersion).outcome =
        .ok specification := by
  have given := (newName_eq_ok_iff.1 named).2.1
  let request := registry.request name values ruleClass semanticsVersion
  have admitted : request.ruleClass.Admits request.scope request.values :=
    (registry.admits_substituted_iff name).2 admits
  rcases Materializer.exists_schema_eq_ok admitted (registry.get?_name_substituted given) with
    ⟨rule, materialized⟩
  have reads : ∀ key value, (values.erase "name").get? key = some value →
      ∃ read, rule.read key = .ok read := by
    intro key value bound
    have keyMem : key ∈ (values.erase "name").keys :=
      List.mem_map_of_mem (OrderedMap.get?_eq_some_iff.1 bound)
    rw [OrderedMap.keys_erase, List.mem_filter, decide_eq_true_eq] at keyMem
    rcases admits.known key keyMem.1 keyMem.2 with ⟨schema, schemaMem, rfl⟩
    rcases Materializer.exists_read_of_schema_eq_ok materialized schemaMem with ⟨read, _, readEq⟩
    exact ⟨read, readEq⟩
  rcases OrderedMap.exists_traverse reads with ⟨attributes, traversed⟩
  have unnamed : "name" ∉ attributes.keys := by
    rw [OrderedMap.keys_of_traverse traversed, OrderedMap.keys_erase]
    simp
  refine ⟨⟨ruleClass.definition.canonicalForm, ruleClass.name,
    attributes.mapValues fun _ value => value.freeze⟩, ?_⟩
  rw [declare_eq_ok_iff, bySchema]
  refine ⟨name, rule, named, materialized, ?_⟩
  simp only [specificationOf, traversed]
  exact Specification.create_eq_ok_iff.2 ⟨unnamed, rfl⟩

/-- Stored values declared again under a new name give the specification that they are from. -/
theorem declare_reused {later : Registry} {others : OrderedMap Value} {name : String}
    {repository : RepositoryName} (bySchema : registry.materializer = .schema)
    (proper : RepositoryName.create registry.scope.base.repository.name = .ok repository)
    (properDefaults : ∀ schema ∈ ruleClass.attributes, schema.HasProperDefault)
    (declared : (registry.declare values ruleClass location semanticsVersion).outcome =
      .ok specification)
    (sameScope : later.scope = registry.scope)
    (sameMaterializer : later.materializer = registry.materializer)
    (named : later.newName others = .ok name)
    (reused : others.erase "name" = specification.attributes) (laterLocation : Location)
    (laterVersion : String) :
    (later.declare others ruleClass laterLocation laterVersion).outcome = .ok specification := by
  have admits := admits_of_declare bySchema declared
  have specifies := specifies_of_declare bySchema declared
  have laterBySchema : later.materializer = .schema := sameMaterializer.trans bySchema
  rw [← sameScope] at proper admits specifies
  have admitsAgain := specifies.admits_reused proper properDefaults reused admits
  have specifiesAgain := specifies.specifies_reused proper properDefaults reused
  rcases exists_declare_of_admits laterBySchema named admitsAgain laterLocation laterVersion with
    ⟨again, declaredAgain⟩
  -- both specifications are made of the reused keywords, and there is only one
  have same := specifiesAgain.unique (specifies_of_declare laterBySchema declaredAgain) admitsAgain
  rw [declaredAgain, same]

end Registry

end ExternalRepos

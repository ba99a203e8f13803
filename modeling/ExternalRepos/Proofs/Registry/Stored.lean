import ExternalRepos.Proofs.JsonValue.Data
import ExternalRepos.Proofs.Registry.Schema

/-!
# What declarations store

Under the schema materializer every attribute of a specification is one of the
rule class, and its value is one of those that `AttributeType.Stores` lists for
its type. Two values fall outside: a label without default that nobody gave stays
null, and a default that its own type does not accept is stored frozen as it is.
Without such defaults the serial form of the specification is made of nothing but
what JSON can express.
-/

namespace ExternalRepos

/-- The value stored for an attribute that a call gives a value, or null. -/
structure Attribute.Keeps (schema : Attribute) (rule : String) (scope : Scope)
    (given stored : Value) : Prop where
  explicit : given ≠ .null →
    schema.normalize rule scope given = .ok stored ∧ schema.type.Stores stored
  fallback : given = .null → schema.default ≠ .null →
    ∃ resolved, scope.resolve schema.type schema.default = .ok resolved ∧ stored = resolved.freeze
  zero : given = .null → schema.default = .null → stored = schema.type.zero
  typed : schema.HasProperDefault → schema.type.Stores stored ∨
    (given = .null ∧ schema.default = .null ∧ schema.type = .label ∧ stored = .null)

/-- A specification that stores what a rule class makes of keywords, and can be handed on. -/
structure RuleClass.Stores (ruleClass : RuleClass) (scope : Scope) (values : OrderedMap Value)
    (specification : Specification) : Prop where
  /-- The keys are those of the call without `name`, in its order. -/
  keys : specification.attributes.keys = values.keys.filter fun key => key ≠ "name"
  kept : ∀ key stored, specification.attributes.get? key = some stored →
    ∃ schema ∈ ruleClass.attributes, schema.name = key ∧
      schema.Keeps ruleClass.name scope (values.given key) stored
  /-- The serial form is understood by JSON and by the reader of serial forms. -/
  serial : (∀ schema ∈ ruleClass.attributes, schema.HasProperDefault) →
    specification.toValue.IsJsonData ∧
      (∃ document, JsonValue.ofValue specification.toValue = .ok document) ∧
      UntypedSpecification.ofValue specification.toValue = .ok specification.untyped

theorem AttributeType.Stores.isJsonData_thaw {type : AttributeType} {value : Value}
    (stores : type.Stores value) : value.thaw.IsJsonData := by
  have texts_isJsonData : ∀ texts : List String,
      (Value.tuple (texts.map .text)).thaw.IsJsonData := by
    intro texts
    rw [Value.thaw, Value.thawItems_eq_map, List.map_map]
    apply Value.isJsonData_list
    intro item itemMem
    rcases List.mem_map.1 itemMem with ⟨content, _, rfl⟩
    exact Value.isJsonData_text content
  cases stores with
  | string content => exact Value.isJsonData_text content
  | label => exact Value.isJsonData_text _
  | int | bool => exact Value.isJsonData_iff.2 ⟨trivial, by simp [Value.thaw, Value.members]⟩
  | stringList texts => exact texts_isJsonData texts
  | labelList => exact texts_isJsonData _
  | stringDict bindings =>
      have thawed : (Value.map (bindings.map fun binding =>
          (.text binding.1, .text binding.2))).thaw =
            .dict (Value.ofTextEntries (bindings.map fun binding =>
              (binding.1, .text binding.2))) := by
        simp [Value.thaw, Value.ofTextEntries]
      rw [thawed]
      apply Value.isJsonData_dict
      intro binding bindingMem
      rcases List.mem_map.1 bindingMem with ⟨source, _, rfl⟩
      exact Value.isJsonData_text source.2

theorem Attribute.keeps_of_valueFor {schema : Attribute} {rule : String} {scope : Scope}
    {repository : RepositoryName} {given value : Value}
    (proper : RepositoryName.create scope.base.repository.name = .ok repository)
    (found : schema.valueFor rule scope given = .ok value) :
    schema.Keeps rule scope given value.freeze where
  explicit := by
    intro present
    rw [valueFor_of_ne_null present] at found
    have stores := stores_of_normalize proper found
    rw [stores.isFrozen.freeze_eq]
    exact ⟨found, stores⟩
  fallback := by
    rintro rfl hasDefault
    rcases exists_resolved_of_valueFor_null hasDefault found with ⟨resolved, resolvedEq, rfl⟩
    exact ⟨resolved, resolvedEq, resolved.freeze_freezeTop⟩
  zero := by
    rintro rfl noDefault
    rw [valueFor_null_of_absent noDefault] at found
    cases found
    exact schema.type.freeze_zero
  typed := by
    intro properDefault
    rcases stores_of_valueFor proper properDefault found with
      stores | ⟨absent, noDefault, isLabel, rfl⟩
    · left
      rw [stores.isFrozen.freeze_eq]
      exact stores
    · exact Or.inr ⟨absent, noDefault, isLabel, rfl⟩

theorem Specification.isJsonData_toValue {specification : Specification}
    (each : ∀ entry ∈ specification.attributes.entries, entry.2.thaw.IsJsonData) :
    specification.toValue.IsJsonData := by
  have attributes :
      (Value.dict (Value.thawEntries specification.untyped.attributes)).IsJsonData := by
    have thawed : Value.thawEntries specification.untyped.attributes =
        Value.ofTextEntries (specification.attributes.entries.map fun entry =>
          (entry.1, entry.2.thaw)) := by
      simp [untyped, Value.ofTextEntries]
    rw [thawed]
    apply Value.isJsonData_dict
    intro binding bindingMem
    rcases List.mem_map.1 bindingMem with ⟨entry, entryMem, rfl⟩
    exact each entry entryMem
  apply Value.isJsonData_dict
  intro field fieldMem
  simp only [List.mem_cons, List.not_mem_nil, or_false] at fieldMem
  rcases fieldMem with rfl | rfl | rfl
  · exact Value.isJsonData_text _
  · exact Value.isJsonData_text _
  · exact attributes

namespace Registry

variable {registry : Registry} {values : OrderedMap Value} {ruleClass : RuleClass}
  {location : Location} {semanticsVersion : String} {specification : Specification}

theorem isConstructed_of_declare
    (declared : (registry.declare values ruleClass location semanticsVersion).outcome =
      .ok specification) : specification.untyped.IsConstructed := by
  rcases declare_eq_ok_iff.1 declared with ⟨_, rule, _, _, specified⟩
  rcases exists_of_bind_eq_ok specified with ⟨attributes, _, created⟩
  exact Specification.isConstructed_of_create created

/-- A declaration under the schema materializer stores typed values and nothing else. -/
theorem stores_of_declare {repository : RepositoryName} (bySchema : registry.materializer = .schema)
    (proper : RepositoryName.create registry.scope.base.repository.name = .ok repository)
    (declared : (registry.declare values ruleClass location semanticsVersion).outcome =
      .ok specification) : ruleClass.Stores registry.scope values specification := by
  have admits := admits_of_declare bySchema declared
  have specifies := specifies_of_declare bySchema declared
  have keeps : ∀ key stored, specification.attributes.get? key = some stored →
      ∃ schema ∈ ruleClass.attributes, schema.name = key ∧
        schema.Keeps ruleClass.name registry.scope (values.given key) stored := by
    intro key stored bound
    have keyMem : key ∈ specification.attributes.keys :=
      List.mem_map_of_mem (OrderedMap.get?_eq_some_iff.1 bound)
    rcases specifies.mem_keys_iff.1 keyMem with ⟨given, notName⟩
    rcases admits.known key given notName with ⟨schema, schemaMem, rfl⟩
    rcases specifies.value schema schemaMem stored bound with ⟨value, found, rfl⟩
    exact ⟨schema, schemaMem, rfl, Attribute.keeps_of_valueFor proper found⟩
  refine ⟨specifies.keys, keeps, ?_⟩
  intro properDefaults
  have json : specification.toValue.IsJsonData := by
    apply Specification.isJsonData_toValue
    intro entry entryMem
    rcases keeps entry.1 entry.2 (OrderedMap.get?_eq_some_iff.2 entryMem) with
      ⟨schema, schemaMem, _, kept⟩
    rcases kept.typed (properDefaults schema schemaMem) with stores | ⟨_, _, _, null⟩
    · exact stores.isJsonData_thaw
    · rw [null]
      exact Value.isJsonData_iff.2 ⟨trivial, by simp [Value.thaw, Value.members]⟩
  exact ⟨json, JsonValue.exists_ofValue json, (isConstructed_of_declare declared).ofValue_toValue⟩

end Registry

end ExternalRepos

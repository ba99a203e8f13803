import ExternalRepos.Proofs.Materializer.Stored
import ExternalRepos.Proofs.OrderedMap
import ExternalRepos.Proofs.RuleClass

/-!
# What the schema materializer accepts

Keywords give every attribute of a rule class a value or, if they leave it out,
null. `RuleClass.Admits` says what the materializer asks of them: they are known,
what is given fits, what is mandatory is given, and label defaults that are needed
can be read. If it does not, the materializer fails; if it does and there is a
name, the materializer succeeds, and every attribute of the rule is read with the
value that `Attribute.valueFor` gives for what was given.

The materializer works through a list of keywords and then through the list of
attributes. `Explicit` follows the first of these walks.
-/

namespace ExternalRepos

/-- The value that keywords give for a key; null if they give none. -/
def OrderedMap.given (values : OrderedMap Value) (key : String) : Value :=
  (values.get? key).getD .null

theorem OrderedMap.given_of_not_mem {values : OrderedMap Value} {key : String}
    (absent : key ∉ values.keys) : values.given key = .null := by
  rw [given, get?_eq_none_iff.2 absent]
  rfl

theorem OrderedMap.given_of_mem {values : OrderedMap Value} {entry : String × Value}
    (entryMem : entry ∈ values.entries) : values.given entry.1 = entry.2 := by
  rw [given, get?_eq_some_iff.2 entryMem]
  rfl

theorem OrderedMap.get?_of_given {values : OrderedMap Value} {key : String}
    (present : values.given key ≠ .null) : values.get? key = some (values.given key) := by
  unfold given at present ⊢
  cases found : values.get? key with
  | none => simp [found] at present
  | some value => rfl

namespace RuleClass

/-- What keywords must be like for a rule class in a scope. -/
structure Admits (ruleClass : RuleClass) (scope : Scope) (values : OrderedMap Value) : Prop where
  known : ∀ key ∈ values.keys, key ≠ "name" →
    ∃ schema ∈ ruleClass.attributes, schema.name = key
  fits : ∀ schema ∈ ruleClass.attributes,
    ∃ value, schema.valueFor ruleClass.name scope (values.given schema.name) = .ok value
  mandatory : ∀ schema ∈ ruleClass.attributes, schema.mandatory = true →
    values.given schema.name ≠ .null

/-- Keywords and the values that are stored for them; what is null drops out. -/
inductive Explicit (ruleClass : RuleClass) (scope : Scope) :
    List (String × Value) → List (String × Value) → Prop
  | nil : Explicit ruleClass scope [] []
  | null {key : String} {schema : Attribute} {entries values : List (String × Value)}
      (known : ruleClass.attribute? key = some schema)
      (rest : Explicit ruleClass scope entries values) :
      Explicit ruleClass scope ((key, .null) :: entries) values
  | given {key : String} {schema : Attribute} {given value : Value}
      {entries values : List (String × Value)} (known : ruleClass.attribute? key = some schema)
      (present : given ≠ .null)
      (normalized : schema.normalize ruleClass.name scope given = .ok value)
      (rest : Explicit ruleClass scope entries values) :
      Explicit ruleClass scope ((key, given) :: entries) ((key, value) :: values)

variable {ruleClass : RuleClass} {scope : Scope} {entries values : List (String × Value)}

/-! ## Keywords -/

theorem explicit_of_explicitValues
    (succeeded : (ruleClass.explicitValues scope entries).outcome = .ok values) :
    ruleClass.Explicit scope entries values := by
  induction entries generalizing values with
  | nil =>
      cases succeeded
      exact .nil
  | cons entry rest ih =>
      rcases entry with ⟨key, given⟩
      unfold explicitValues at succeeded
      split at succeeded
      · cases succeeded
      · rename_i schema known
        split at succeeded
        · rename_i absent
          rw [Value.isNull_iff.1 absent]
          exact .null known (ih succeeded)
        · rename_i present
          split at succeeded
          · cases succeeded
          · rename_i value normalized
            rcases exists_of_map_eq_ok succeeded with ⟨later, laterSucceeded, rfl⟩
            exact .given known ((not_congr Value.isNull_iff).1 present) normalized
              (ih laterSucceeded)

theorem Explicit.explicitValues_eq (explicit : ruleClass.Explicit scope entries values) :
    (ruleClass.explicitValues scope entries).outcome = .ok values := by
  induction explicit with
  | nil => rfl
  | null known rest ih =>
      simp only [explicitValues, known]
      exact ih
  | given known present normalized rest ih =>
      have notNull := (not_congr Value.isNull_iff).2 present
      simp only [explicitValues, known, notNull, normalized, ih, Except.map]
      rfl

theorem Explicit.known (explicit : ruleClass.Explicit scope entries values) :
    ∀ entry ∈ entries, ∃ schema, ruleClass.attribute? entry.1 = some schema := by
  induction explicit with
  | nil => simp
  | null known rest ih =>
      intro entry entryMem
      rcases List.mem_cons.1 entryMem with rfl | later
      · exact ⟨_, known⟩
      · exact ih entry later
  | given known present normalized rest ih =>
      intro entry entryMem
      rcases List.mem_cons.1 entryMem with rfl | later
      · exact ⟨_, known⟩
      · exact ih entry later

/-- An attribute that is given nothing has no stored value, every other one its normal form. -/
theorem Explicit.lookup (explicit : ruleClass.Explicit scope entries values)
    (nodup : (entries.map Prod.fst).Nodup) {key : String} {schema : Attribute}
    (known : ruleClass.attribute? key = some schema) :
    (((entries.lookup key).getD .null = .null ∧ values.lookup key = none) ∨
      ∃ value, (entries.lookup key).getD .null ≠ .null ∧
        schema.normalize ruleClass.name scope ((entries.lookup key).getD .null) = .ok value ∧
        values.lookup key = some value) := by
  induction explicit with
  | nil => exact Or.inl ⟨rfl, rfl⟩
  | @null first _ entries values _ rest ih =>
      simp only [List.map_cons, List.nodup_cons] at nodup
      by_cases here : key = first
      · subst here
        have absent := OrderedMap.lookup_eq_none_iff.2 nodup.1
        rcases ih nodup.2 with ⟨_, nothing⟩ | ⟨value, present, _⟩
        · exact Or.inl ⟨by simp, nothing⟩
        · exact absurd (by rw [absent]; rfl) present
      · rw [OrderedMap.lookup_cons_of_ne here]
        exact ih nodup.2
  | @given first other given value entries values firstKnown present normalized rest ih =>
      simp only [List.map_cons, List.nodup_cons] at nodup
      by_cases here : key = first
      · subst here
        rw [known] at firstKnown
        cases firstKnown
        exact Or.inr ⟨value, by simpa using present, by simpa using normalized, by simp⟩
      · rw [OrderedMap.lookup_cons_of_ne here, OrderedMap.lookup_cons_of_ne here]
        exact ih nodup.2

theorem Explicit.lookup_given {keywords : OrderedMap Value}
    (explicit : ruleClass.Explicit scope keywords.entries values) {key : String}
    {schema : Attribute} (known : ruleClass.attribute? key = some schema) :
    ((keywords.given key = .null ∧ values.lookup key = none) ∨
      ∃ value, keywords.given key ≠ .null ∧
        schema.normalize ruleClass.name scope (keywords.given key) = .ok value ∧
        values.lookup key = some value) :=
  explicit.lookup keywords.keys_nodup known

theorem Explicit.lookup_eq_none_of_not_mem
    (explicit : ruleClass.Explicit scope entries values) {key : String}
    (absent : key ∉ entries.map Prod.fst) : values.lookup key = none := by
  induction explicit with
  | nil => rfl
  | null known rest ih =>
      simp only [List.map_cons, List.mem_cons, not_or] at absent
      exact ih absent.2
  | given known present normalized rest ih =>
      simp only [List.map_cons, List.mem_cons, not_or] at absent
      rw [OrderedMap.lookup_cons_of_ne absent.1]
      exact ih absent.2

theorem Explicit.lookup_eq_none_iff {keywords : OrderedMap Value}
    (explicit : ruleClass.Explicit scope keywords.entries values) {key : String}
    {schema : Attribute} (known : ruleClass.attribute? key = some schema) :
    values.lookup key = none ↔ keywords.given key = .null := by
  rcases explicit.lookup_given known with ⟨absent, unset⟩ | ⟨value, present, _, set⟩
  · simp [absent, unset]
  · simp [present, set]

/-- The stored name is the given one, which is a text. -/
theorem Explicit.lookup_name {keywords : OrderedMap Value}
    (explicit : ruleClass.Explicit scope keywords.entries values) :
    (keywords.given "name" = .null ∧ values.lookup "name" = none) ∨
      ∃ name, keywords.given "name" = .text name ∧ values.lookup "name" = some (.text name) := by
  rcases explicit.lookup_given ruleClass.attribute?_name with
    ⟨absent, unset⟩ | ⟨value, _, normalized, set⟩
  · exact Or.inl ⟨absent, unset⟩
  · rcases Attribute.normalize_eq_ok_iff.1 normalized with ⟨accepted, stored⟩
    rcases AttributeType.isText_iff.1 accepted with ⟨name, text⟩
    rw [text] at stored
    cases stored
    exact Or.inr ⟨name, text, set⟩

theorem exists_explicit
    (fits : ∀ entry ∈ entries, ∃ schema, ruleClass.attribute? entry.1 = some schema ∧
      (entry.2 ≠ .null → ∃ value, schema.normalize ruleClass.name scope entry.2 = .ok value)) :
    ∃ values, ruleClass.Explicit scope entries values := by
  induction entries with
  | nil => exact ⟨[], .nil⟩
  | cons entry rest ih =>
      rcases ih fun other otherMem => fits other (List.mem_cons_of_mem _ otherMem) with
        ⟨values, explicit⟩
      rcases entry with ⟨key, given⟩
      rcases fits (key, given) List.mem_cons_self with ⟨schema, known, normal⟩
      by_cases absent : given = .null
      · subst absent
        exact ⟨values, .null known explicit⟩
      · rcases normal absent with ⟨value, normalized⟩
        exact ⟨(key, value) :: values, .given known absent normalized explicit⟩

/-! ## Mandatory attributes and label defaults -/

theorem checkMandatory_eq_ok_iff :
    ruleClass.checkMandatory values = .ok () ↔
      ∀ schema ∈ ruleClass.attributes, schema.mandatory = true →
        values.lookup schema.name ≠ none := by
  unfold checkMandatory
  split
  · rename_i schema found
    have missing := List.find?_some found
    simp only [Bool.and_eq_true, Option.isNone_iff_eq_none] at missing
    simp only [reduceCtorEq, false_iff]
    intro given
    exact given schema (List.mem_of_find?_eq_some found) missing.1 missing.2
  · rename_i complete
    rw [List.find?_eq_none] at complete
    simp only [true_iff]
    intro schema schemaMem mandatory missing
    exact complete schema schemaMem (by simp [mandatory, missing])

theorem lookup_labelDefaults_of_not_mem {attributes : List Attribute}
    {defaults : List (String × Value)}
    (succeeded : labelDefaults scope values attributes = .ok defaults) {key : String}
    (absent : key ∉ attributes.map Attribute.name) : defaults.lookup key = none := by
  induction attributes generalizing defaults with
  | nil =>
      cases succeeded
      rfl
  | cons first rest ih =>
      simp only [List.map_cons, List.mem_cons, not_or] at absent
      unfold labelDefaults at succeeded
      split at succeeded
      · rcases exists_of_bind_eq_ok succeeded with ⟨value, _, succeeded⟩
        rcases exists_of_bind_eq_ok succeeded with ⟨others, othersEq, succeeded⟩
        cases succeeded
        rw [OrderedMap.lookup_cons_of_ne absent.1]
        exact ih othersEq absent.2
      · exact ih succeeded absent.2

/-- The default of an attribute without a value is resolved if it holds labels. -/
theorem lookup_labelDefaults {attributes : List Attribute} {defaults : List (String × Value)}
    (succeeded : labelDefaults scope values attributes = .ok defaults)
    (nodup : (attributes.map Attribute.name).Nodup) {schema : Attribute}
    (schemaMem : schema ∈ attributes) (unset : values.lookup schema.name = none) :
    (schema.hasLabelDefault = false ∧ defaults.lookup schema.name = none) ∨
      ∃ value, schema.hasLabelDefault = true ∧ schema.resolvedDefault scope = .ok value ∧
        defaults.lookup schema.name = some value := by
  induction attributes generalizing defaults with
  | nil => simp at schemaMem
  | cons first rest ih =>
      simp only [List.map_cons, List.nodup_cons] at nodup
      unfold labelDefaults at succeeded
      split at succeeded
      · rename_i needed
        simp only [Bool.and_eq_true] at needed
        rcases exists_of_bind_eq_ok succeeded with ⟨value, resolved, succeeded⟩
        rcases exists_of_bind_eq_ok succeeded with ⟨others, othersEq, succeeded⟩
        cases succeeded
        rcases List.mem_cons.1 schemaMem with rfl | later
        · exact Or.inr ⟨value, needed.1, resolved, by simp⟩
        · have different : schema.name ≠ first.name := by
            intro same
            apply nodup.1
            rw [← same]
            exact List.mem_map_of_mem later
          rw [OrderedMap.lookup_cons_of_ne different]
          exact ih othersEq nodup.2 later
      · rename_i unneeded
        rcases List.mem_cons.1 schemaMem with rfl | later
        · rw [unset] at unneeded
          exact Or.inl ⟨by simpa using unneeded, lookup_labelDefaults_of_not_mem succeeded nodup.1⟩
        · exact ih succeeded nodup.2 later

theorem exists_labelDefaults {attributes : List Attribute}
    (resolves : ∀ schema ∈ attributes, schema.hasLabelDefault = true →
      values.lookup schema.name = none → ∃ value, schema.resolvedDefault scope = .ok value) :
    ∃ defaults, labelDefaults scope values attributes = .ok defaults := by
  induction attributes with
  | nil => exact ⟨[], rfl⟩
  | cons first rest ih =>
      rcases ih fun schema schemaMem => resolves schema (List.mem_cons_of_mem _ schemaMem) with
        ⟨others, othersEq⟩
      unfold labelDefaults
      split
      · rename_i needed
        simp only [Bool.and_eq_true, Option.isNone_iff_eq_none] at needed
        rcases resolves first List.mem_cons_self needed.1 needed.2 with ⟨value, resolved⟩
        exact ⟨(first.name, value) :: others, by rw [resolved, othersEq]; rfl⟩
      · exact ⟨others, othersEq⟩

/-! ## Rules -/

/-- The rule that stored values are completed to, and what has been checked for it. -/
theorem instantiate_eq_ok {rule : Rule}
    (succeeded : ruleClass.instantiate scope values = .ok rule) :
    ∃ defaults, ruleClass.checkMandatory values = .ok () ∧
      labelDefaults scope values ruleClass.attributes = .ok defaults ∧
      rule.ruleClass = ruleClass ∧
      rule.values = values.filter (fun entry => entry.1 ≠ "name") ∧
      rule.defaults = defaults := by
  unfold instantiate at succeeded
  rcases exists_of_bind_eq_ok succeeded with ⟨⟨⟩, complete, succeeded⟩
  rcases exists_of_bind_eq_ok succeeded with ⟨defaults, defaultsEq, succeeded⟩
  split at succeeded
  · cases succeeded
    exact ⟨defaults, complete, defaultsEq, rfl, rfl, rfl⟩
  · cases succeeded

theorem lookup_name_of_instantiate {rule : Rule}
    (succeeded : ruleClass.instantiate scope values = .ok rule) :
    values.lookup "name" = some (.text rule.name) := by
  unfold instantiate at succeeded
  rcases exists_of_bind_eq_ok succeeded with ⟨⟨⟩, _, succeeded⟩
  rcases exists_of_bind_eq_ok succeeded with ⟨defaults, _, succeeded⟩
  split at succeeded
  · rename_i name named
    cases succeeded
    rcases Option.bind_eq_some_iff.1 named with ⟨value, stored, text⟩
    cases value <;> cases text
    exact stored
  · cases succeeded

namespace Admits

variable {keywords others : OrderedMap Value} {name : String}

/-- What is admitted depends on the values of attributes and on what is given as mandatory. -/
theorem congr (admits : ruleClass.Admits scope keywords)
    (known : ∀ key ∈ others.keys, key ≠ "name" →
      ∃ schema ∈ ruleClass.attributes, schema.name = key)
    (same : ∀ schema ∈ ruleClass.attributes,
      schema.valueFor ruleClass.name scope (others.given schema.name) =
        schema.valueFor ruleClass.name scope (keywords.given schema.name))
    (given : ∀ schema ∈ ruleClass.attributes, schema.mandatory = true →
      others.given schema.name = keywords.given schema.name) :
    ruleClass.Admits scope others where
  known := known
  fits := by
    intro schema schemaMem
    rw [same schema schemaMem]
    exact admits.fits schema schemaMem
  mandatory := by
    intro schema schemaMem mandatory
    rw [given schema schemaMem mandatory]
    exact admits.mandatory schema schemaMem mandatory

theorem exists_explicit (admits : ruleClass.Admits scope keywords)
    (named : keywords.get? "name" = some (.text name)) :
    ∃ values, ruleClass.Explicit scope keywords.entries values := by
  apply RuleClass.exists_explicit
  intro entry entryMem
  by_cases isName : entry.1 = "name"
  · have text : entry.2 = .text name := by
      rw [← OrderedMap.given_of_mem entryMem, isName, OrderedMap.given, named]
      rfl
    rw [isName, text]
    exact ⟨Attribute.nameAttribute, ruleClass.attribute?_name, fun _ => ⟨_, rfl⟩⟩
  · rcases admits.known entry.1 (List.mem_map_of_mem entryMem) isName with
      ⟨schema, schemaMem, same⟩
    refine ⟨schema, (attribute?_eq_some_iff isName).2 ⟨schemaMem, same⟩, ?_⟩
    intro present
    rcases admits.fits schema schemaMem with ⟨value, valueEq⟩
    rw [same, OrderedMap.given_of_mem entryMem, Attribute.valueFor_of_ne_null present] at valueEq
    exact ⟨value, valueEq⟩

theorem exists_instantiate (admits : ruleClass.Admits scope keywords)
    (explicit : ruleClass.Explicit scope keywords.entries values)
    (named : keywords.get? "name" = some (.text name)) :
    ∃ rule, ruleClass.instantiate scope values = .ok rule := by
  have given_of_unset : ∀ schema ∈ ruleClass.attributes, values.lookup schema.name = none →
      keywords.given schema.name = .null := fun schema schemaMem =>
    (explicit.lookup_eq_none_iff (attribute?_of_mem schemaMem)).1
  have complete : ruleClass.checkMandatory values = .ok () := by
    rw [checkMandatory_eq_ok_iff]
    intro schema schemaMem mandatory unset
    exact admits.mandatory schema schemaMem mandatory (given_of_unset schema schemaMem unset)
  have resolves : ∀ schema ∈ ruleClass.attributes, schema.hasLabelDefault = true →
      values.lookup schema.name = none → ∃ value, schema.resolvedDefault scope = .ok value := by
    intro schema schemaMem labels unset
    rcases admits.fits schema schemaMem with ⟨value, valueEq⟩
    rw [given_of_unset schema schemaMem unset, Attribute.valueFor_null, labels, if_pos rfl]
      at valueEq
    exact ⟨value, valueEq⟩
  have storedName : values.lookup "name" = some (.text name) := by
    have text : keywords.given "name" = .text name := by
      rw [OrderedMap.given, named]
      rfl
    rcases explicit.lookup_name with ⟨absent, _⟩ | ⟨other, given, set⟩
    · rw [text] at absent
      cases absent
    · rw [text] at given
      cases given
      exact set
  rcases exists_labelDefaults resolves with ⟨defaults, defaultsEq⟩
  refine ⟨⟨ruleClass, name, values.filter fun entry => entry.1 ≠ "name", defaults⟩, ?_⟩
  simp only [instantiate, complete, defaultsEq, storedName]
  rfl

end Admits

end RuleClass

namespace Materializer

variable {request : Request} {rule : Rule}

theorem exists_explicit_of_schema_eq_ok
    (succeeded : (Materializer.schema request).outcome = .ok rule) :
    ∃ values, request.ruleClass.Explicit request.scope request.values.entries values ∧
      request.ruleClass.instantiate request.scope values = .ok rule := by
  rcases exists_of_bind_eq_ok succeeded with ⟨values, explicitEq, instantiated⟩
  exact ⟨values, RuleClass.explicit_of_explicitValues explicitEq, instantiated⟩

theorem given_name_of_schema_eq_ok (succeeded : (Materializer.schema request).outcome = .ok rule) :
    request.values.given "name" = .text rule.name := by
  rcases exists_explicit_of_schema_eq_ok succeeded with ⟨values, explicit, instantiated⟩
  have stored := RuleClass.lookup_name_of_instantiate instantiated
  rcases explicit.lookup_name with ⟨_, unset⟩ | ⟨name, given, set⟩
  · rw [unset] at stored
    cases stored
  · rw [set] at stored
    cases stored
    exact given

/-- Every attribute of a materialized rule is read with the value for what was given. -/
theorem exists_read_of_schema_eq_ok (succeeded : (Materializer.schema request).outcome = .ok rule)
    {schema : Attribute} (schemaMem : schema ∈ request.ruleClass.attributes) :
    ∃ value, schema.valueFor request.ruleClass.name request.scope
        (request.values.given schema.name) = .ok value ∧
      rule.read schema.name = .ok value := by
  rcases exists_explicit_of_schema_eq_ok succeeded with ⟨values, explicit, instantiated⟩
  rcases RuleClass.instantiate_eq_ok instantiated with
    ⟨defaults, _, defaultsEq, ruleClassEq, valuesEq, rfl⟩
  have known := RuleClass.attribute?_of_mem schemaMem
  have notName := RuleClass.name_ne_of_mem schemaMem
  have stored : rule.values.lookup schema.name = values.lookup schema.name := by
    rw [valuesEq, OrderedMap.lookup_filter_of_ne notName]
  rw [Rule.read, if_neg notName, stored, ruleClassEq, known]
  rcases explicit.lookup_given known with ⟨absent, unset⟩ | ⟨value, present, normalized, set⟩
  · rw [absent, unset, Attribute.valueFor_null]
    rcases RuleClass.lookup_labelDefaults defaultsEq request.ruleClass.nodup_names schemaMem
      unset with ⟨plain, unresolved⟩ | ⟨value, labels, resolved, stored⟩
    · exact ⟨schema.defaultValue, by rw [plain]; rfl, by rw [unresolved]⟩
    · exact ⟨value, by rw [labels, if_pos rfl, resolved], by rw [stored]⟩
  · exact ⟨value, by rw [Attribute.valueFor_of_ne_null present, normalized], by rw [set]⟩

theorem admits_of_schema_eq_ok (succeeded : (Materializer.schema request).outcome = .ok rule) :
    request.ruleClass.Admits request.scope request.values := by
  rcases exists_explicit_of_schema_eq_ok succeeded with ⟨values, explicit, instantiated⟩
  rcases RuleClass.instantiate_eq_ok instantiated with ⟨_, complete, _⟩
  constructor
  · intro key keyMem notName
    rcases List.mem_map.1 keyMem with ⟨entry, entryMem, rfl⟩
    rcases explicit.known entry entryMem with ⟨schema, known⟩
    exact ⟨schema, (RuleClass.attribute?_eq_some_iff notName).1 known⟩
  · intro schema schemaMem
    rcases exists_read_of_schema_eq_ok succeeded schemaMem with ⟨value, valueEq, _⟩
    exact ⟨value, valueEq⟩
  · intro schema schemaMem mandatory absent
    have unset := (explicit.lookup_eq_none_iff (RuleClass.attribute?_of_mem schemaMem)).2 absent
    exact RuleClass.checkMandatory_eq_ok_iff.1 complete schema schemaMem mandatory unset

/-- What the rule class does not know cannot be read, since no keyword has given it. -/
theorem read_unknown_of_schema_eq_ok (succeeded : (Materializer.schema request).outcome = .ok rule)
    {key : String} (unknown : key ∉ request.ruleClass.attributeNames) :
    rule.read key = .error (.noSuchAttribute key request.ruleClass.name) := by
  rcases exists_explicit_of_schema_eq_ok succeeded with ⟨values, explicit, instantiated⟩
  rcases RuleClass.instantiate_eq_ok instantiated with
    ⟨defaults, _, defaultsEq, ruleClassEq, valuesEq, rfl⟩
  have notName : key ≠ "name" := fun isName => unknown (isName ▸ List.mem_cons_self)
  have undeclared : key ∉ request.ruleClass.attributes.map Attribute.name := fun keyMem =>
    unknown (List.mem_cons_of_mem _ keyMem)
  have notGiven : key ∉ request.values.keys := by
    intro keyMem
    rcases (admits_of_schema_eq_ok succeeded).known key keyMem notName with ⟨schema, schemaMem, rfl⟩
    exact undeclared (List.mem_map_of_mem schemaMem)
  have unset := explicit.lookup_eq_none_of_not_mem notGiven
  have noDefault := RuleClass.lookup_labelDefaults_of_not_mem defaultsEq undeclared
  rw [Rule.read, if_neg notName, valuesEq, OrderedMap.lookup_filter_of_ne notName, unset,
    noDefault, ruleClassEq, RuleClass.attribute?_eq_none_iff.2 unknown]

/-- The keywords that a rule class admits make a rule, if there is a name among them. -/
theorem exists_schema_eq_ok (admits : request.ruleClass.Admits request.scope request.values)
    {name : String} (named : request.values.get? "name" = some (.text name)) :
    ∃ rule, (Materializer.schema request).outcome = .ok rule := by
  rcases admits.exists_explicit named with ⟨values, explicit⟩
  rcases admits.exists_instantiate explicit named with ⟨rule, instantiated⟩
  refine ⟨rule, ?_⟩
  show (request.ruleClass.explicitValues request.scope request.values.entries).outcome.bind
    (request.ruleClass.instantiate request.scope) = .ok rule
  rw [explicit.explicitValues_eq]
  exact instantiated

/-- The keywords of a request succeed if the rule class admits them and there is a name. -/
theorem exists_schema_eq_ok_iff_admits :
    (∃ rule, (Materializer.schema request).outcome = .ok rule) ↔
      request.ruleClass.Admits request.scope request.values ∧
        ∃ name, request.values.given "name" = .text name := by
  constructor
  · rintro ⟨rule, succeeded⟩
    exact ⟨admits_of_schema_eq_ok succeeded, rule.name, given_name_of_schema_eq_ok succeeded⟩
  · rintro ⟨admits, name, named⟩
    have present : request.values.given "name" ≠ .null := by
      rw [named]
      exact Value.noConfusion
    exact exists_schema_eq_ok admits (named ▸ OrderedMap.get?_of_given present)

end Materializer

end ExternalRepos

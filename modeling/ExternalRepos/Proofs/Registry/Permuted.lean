import ExternalRepos.Proofs.Materializer.Warnings
import ExternalRepos.Proofs.Registry.Schema
import ExternalRepos.Proofs.Specification.Equality

/-!
# Keywords in another order

A declaration goes through its keywords in order, and each step of the way can fail,
post or store. All of this is about one keyword at a time: a rule class admits keywords
by what they give to each attribute (`RuleClass.Admits`), the value of an attribute
depends on what is given to it alone, and warnings are about single keywords. So the
keywords of a call can be put in another order, and apart from the order of the
attributes and of the warnings nothing changes. An error can be another one, since
another keyword at fault may come first.
-/

namespace ExternalRepos

variable {ruleClass : RuleClass} {scope : Scope} {values others : OrderedMap Value}

theorem OrderedMap.given_eq_of_perm (arranged : values.entries.Perm others.entries) (key : String) :
    values.given key = others.given key := by
  rw [given, given, perm_entries_iff.1 arranged key]

namespace RuleClass

theorem Admits.of_perm (admits : ruleClass.Admits scope values)
    (arranged : values.entries.Perm others.entries) : ruleClass.Admits scope others := by
  have given := OrderedMap.given_eq_of_perm arranged
  refine admits.congr ?_ ?_ ?_
  · intro key keyMem
    exact admits.known key ((arranged.map Prod.fst).mem_iff.2 keyMem)
  · intro schema _
    rw [given schema.name]
  · intro schema _ _
    exact (given schema.name).symm

/-- Keywords in two orders make specifications with the same values. -/
theorem Specifies.get?_eq_of_perm {specification other : Specification}
    (specifies : ruleClass.Specifies scope values specification)
    (specifiesOther : ruleClass.Specifies scope others other)
    (admits : ruleClass.Admits scope values) (arranged : values.entries.Perm others.entries)
    (key : String) : specification.attributes.get? key = other.attributes.get? key := by
  have sameKeys : key ∈ specification.attributes.keys ↔ key ∈ other.attributes.keys := by
    rw [specifies.mem_keys_iff, specifiesOther.mem_keys_iff, OrderedMap.keys, OrderedMap.keys,
      (arranged.map Prod.fst).mem_iff]
  by_cases keyMem : key ∈ specification.attributes.keys
  · rcases specifies.mem_keys_iff.1 keyMem with ⟨keyword, notName⟩
    rcases admits.known key keyword notName with ⟨schema, schemaMem, rfl⟩
    rcases OrderedMap.exists_get?_of_mem_keys keyMem with ⟨stored, storedEq⟩
    rcases OrderedMap.exists_get?_of_mem_keys (sameKeys.1 keyMem) with ⟨otherStored, otherEq⟩
    rcases specifies.value schema schemaMem stored storedEq with ⟨read, readEq, rfl⟩
    rcases specifiesOther.value schema schemaMem otherStored otherEq with
      ⟨otherRead, otherReadEq, rfl⟩
    rw [OrderedMap.given_eq_of_perm arranged, otherReadEq] at readEq
    cases readEq
    rw [storedEq, otherEq]
  · rw [OrderedMap.get?_eq_none_iff.2 keyMem, OrderedMap.get?_eq_none_iff.2 (mt sameKeys.2 keyMem)]

/-- The keyword `name` is never deprecated, so it does not matter what it gives. -/
theorem warning?_name (ruleClass : RuleClass) (given : Value) :
    ruleClass.warning? ("name", given) = none := by
  by_cases absent : given = .null
  · rw [absent, warning?_null]
  · rw [warning?, if_neg absent, attribute?_name]
    rfl

end RuleClass

namespace Registry

variable {registry : Registry} {location : Location} {version : String}

theorem newName_eq_of_perm (registry : Registry) (arranged : values.entries.Perm others.entries) :
    registry.newName values = registry.newName others := by
  rw [newName, newName, OrderedMap.perm_entries_iff.1 arranged "name"]

theorem filterMap_warning?_substituted (registry : Registry) (name : String)
    (values : OrderedMap Value) (ruleClass : RuleClass) :
    (registry.substituted name values).entries.filterMap ruleClass.warning? =
      values.entries.filterMap ruleClass.warning? := by
  simp only [substituted, OrderedMap.mapValues, List.filterMap_map]
  congr 1
  funext entry
  by_cases named : entry.1 = "name"
  · rcases entry with ⟨key, given⟩
    subst named
    simp [RuleClass.warning?_name]
  · simp [named]

/-- A successful declaration posts its warnings in the order of the keywords. -/
theorem events_declare_of_eq_ok {specification : Specification}
    (bySchema : registry.materializer = .schema)
    (declared : (registry.declare values ruleClass location version).outcome = .ok specification) :
    (registry.declare values ruleClass location version).events =
      values.entries.filterMap ruleClass.warning? := by
  rcases declare_eq_ok_iff.1 declared with ⟨name, rule, named, materialized, _⟩
  rw [bySchema] at materialized
  rw [events_declare_of_newName named, bySchema, Materializer.events_schema_of_eq_ok materialized]
  exact registry.filterMap_warning?_substituted name values ruleClass

/-- The record of a successful declaration is under the chosen name. -/
theorem registry_declare_of_eq_ok {specification : Specification} {name : String}
    (named : registry.newName values = .ok name)
    (declared : (registry.declare values ruleClass location version).outcome = .ok specification) :
    (registry.declare values ruleClass location version).registry =
      registry.record name ⟨specification, location⟩ := by
  rcases registry.declare_cases values ruleClass location version with
    ⟨failure, failed, _⟩ | ⟨chosen, made, namedAgain, succeeded, recorded⟩
  · rw [failed] at declared
    cases declared
  · rw [succeeded] at declared
    rw [namedAgain] at named
    cases declared
    cases named
    exact recorded

theorem exists_declare_of_perm (bySchema : registry.materializer = .schema)
    (arranged : values.entries.Perm others.entries) {specification : Specification}
    (declared : (registry.declare values ruleClass location version).outcome = .ok specification) :
    ∃ other, (registry.declare others ruleClass location version).outcome = .ok other := by
  rcases declare_eq_ok_iff.1 declared with ⟨name, _, named, _, _⟩
  rw [registry.newName_eq_of_perm arranged] at named
  have admits := (admits_of_declare bySchema declared).of_perm arranged
  exact exists_declare_of_admits bySchema named admits location version

/-- What two successful declarations with the same keywords in two orders have in common. -/
structure Rearranged (registry : Registry) (values others : OrderedMap Value) (location : Location)
    (first second : Attempt) (specification other : Specification) : Prop where
  equalShared : specification.equalShared other = true
  /-- Compared by value, they are equal unless the specification differs from itself. -/
  equal : specification.equal other = specification.equal specification
  hashKey : specification.hashKey = other.hashKey
  value : ∀ key, specification.attributes.get? key = other.attributes.get? key
  keys : specification.attributes.keys = values.keys.filter fun key => key ≠ "name"
  otherKeys : other.attributes.keys = others.keys.filter fun key => key ≠ "name"
  /-- Both are recorded under the name that the keywords choose, with the position of the call. -/
  recorded : ∃ name, values.get? "name" = some (.text name) ∧
    first.registry = registry.record name ⟨specification, location⟩ ∧
    second.registry = registry.record name ⟨other, location⟩
  events : first.events.Perm second.events

/--
The order of the keywords does not decide whether a declaration under the schema
materializer succeeds. If it does, the order shows in the order of the attributes and of
the warnings, and in nothing else.
-/
theorem declare_rearranged (registry : Registry) (bySchema : registry.materializer = .schema)
    (ruleClass : RuleClass) {values others : OrderedMap Value}
    (arranged : values.entries.Perm others.entries) (location : Location) (version : String) :
    let first := registry.declare values ruleClass location version
    let second := registry.declare others ruleClass location version
    ((∃ specification, first.outcome = .ok specification) ↔
      ∃ other, second.outcome = .ok other) ∧
    ∀ specification other, first.outcome = .ok specification → second.outcome = .ok other →
      Rearranged registry values others location first second specification other := by
  intro first second
  refine ⟨⟨?_, ?_⟩, ?_⟩
  · rintro ⟨specification, declared⟩
    exact exists_declare_of_perm bySchema arranged declared
  · rintro ⟨other, declared⟩
    exact exists_declare_of_perm bySchema arranged.symm declared
  · intro specification other declared otherDeclared
    have specifies := specifies_of_declare bySchema declared
    have specifiesOther := specifies_of_declare bySchema otherDeclared
    have bzlFile := specifies.bzlFile.trans specifiesOther.bzlFile.symm
    have ruleClassName := specifies.ruleClassName.trans specifiesOther.ruleClassName.symm
    have value := specifies.get?_eq_of_perm specifiesOther (admits_of_declare bySchema declared)
      arranged
    rcases declare_eq_ok_iff.1 declared with ⟨name, _, named, _, _⟩
    have namedOther := registry.newName_eq_of_perm arranged ▸ named
    exact {
      equalShared := Specification.equalShared_of_get? bzlFile ruleClassName value
      equal := Specification.equal_of_get? bzlFile ruleClassName value
      hashKey := Specification.hashKey_eq_of_get? bzlFile ruleClassName value
      value := value
      keys := specifies.keys
      otherKeys := specifiesOther.keys
      recorded := ⟨name, (newName_eq_ok_iff.1 named).2.1, registry_declare_of_eq_ok named declared,
        registry_declare_of_eq_ok namedOther otherDeclared⟩
      events := by
        rw [events_declare_of_eq_ok bySchema declared,
          events_declare_of_eq_ok bySchema otherDeclared]
        exact arranged.filterMap ruleClass.warning? }

/-- Two deprecated attributes and a default, under keywords that are given in two orders. -/
theorem declare_rearranged_of_warnings :
    let ruleClass : RuleClass :=
      ⟨"archive", default,
        [⟨"url", .string, .null, true, some "use urls", ""⟩,
          ⟨"build", .label, .text "x.BUILD", false, none, ""⟩,
          ⟨"deps", .labelList, .null, false, some "unused", ""⟩], "", by decide⟩
    let values : OrderedMap Value :=
      .ofList [("name", .text "tool"), ("url", .text "u"), ("build", .null),
        ("deps", .list [.text ":d"])]
    let others : OrderedMap Value :=
      .ofList [("deps", .list [.text ":d"]), ("build", .null), ("name", .text "tool"),
        ("url", .text "u")]
    let stored : OrderedMap Value :=
      .ofList [("url", .text "u"), ("build", .text "@@//:x.BUILD"),
        ("deps", .tuple [.text "@@//:d"])]
    let registry : Registry :=
      ⟨"ext+", ⟨.root, .empty⟩, default, default, .schema, none, ∅, false⟩
    let first := registry.declare values ruleClass .builtin ""
    let second := registry.declare others ruleClass .builtin ""
    values.entries.Perm others.entries ∧
    first.events.map Event.message = ["attribute 'url' of 'archive' is deprecated: use urls",
      "attribute 'deps' of 'archive' is deprecated: unused"] ∧
    ∃ specification other, first.outcome = .ok specification ∧ second.outcome = .ok other ∧
      specification.attributes = stored ∧
      Rearranged registry values others .builtin first second specification other := by
  intro ruleClass values others stored registry first second
  have arranged : values.entries.Perm others.entries := by decide
  have posted : first.events.map Event.message =
      ["attribute 'url' of 'archive' is deprecated: use urls",
        "attribute 'deps' of 'archive' is deprecated: unused"] := by decide +kernel
  have declared : first.outcome.toOption.map Specification.attributes = some stored := by
    decide +kernel
  rcases declare_rearranged registry rfl ruleClass arranged .builtin "" with ⟨succeeds, alike⟩
  rcases outcome : first.outcome with failure | specification
  · rw [outcome] at declared
    cases declared
  · rw [outcome] at declared
    rcases succeeds.1 ⟨specification, outcome⟩ with ⟨other, otherOutcome⟩
    exact ⟨arranged, posted, specification, other, rfl, otherOutcome, Option.some.inj declared,
      alike specification other outcome otherOutcome⟩

end Registry

end ExternalRepos

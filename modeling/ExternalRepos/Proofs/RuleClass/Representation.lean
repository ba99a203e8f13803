import Mathlib.Data.List.Induction
import Mathlib.Data.List.Nodup
import ExternalRepos.Proofs.OrderedMap
import ExternalRepos.Proofs.RuleClass

/-!
# Rule classes represent lists of attributes

A list of attributes is a schema if none of them is called `name` and no two have the
same name. Otherwise one of them is the first that clashes with those before it
(`FirstClash`), and the check reports this one (`checkNames_eq_error_iff`): it stops at
an attribute that clashes, and past every other it goes on with one more name seen.

A schema is a list, but it may as well be kept as an index of the implied attribute and
those of the list, in which every attribute is put under its name (`index`). Were a name
to occur twice, a search of the list would find the first attribute of it and the index
the last one. In a schema they always find the same one.
-/

namespace ExternalRepos.RuleClass

/-- No attribute is called `name`, and no two attributes have the same name. -/
structure Distinct (attributes : List Attribute) : Prop where
  notName : ∀ schema ∈ attributes, schema.name ≠ "name"
  nodup : (attributes.map Attribute.name).Nodup

/-- Why an attribute of a rule cannot follow others. -/
inductive Clashes (rule : String) (earlier : List Attribute) (schema : Attribute) : Error → Prop
  | reserved (isName : schema.name = "name") : Clashes rule earlier schema (.redefinedName rule)
  | repeated (notName : schema.name ≠ "name") {other : Attribute} (otherMem : other ∈ earlier)
      (same : other.name = schema.name) :
      Clashes rule earlier schema (.duplicateAttribute schema.name rule)

/-- The clash of the first attribute in a list that clashes with those before it. -/
def FirstClash (rule : String) (attributes : List Attribute) (failure : Error) : Prop :=
  ∃ earlier schema later, attributes = earlier ++ schema :: later ∧ Distinct earlier ∧
    Clashes rule earlier schema failure

/-- The one attribute of a list that has a name. -/
def IsOnly (key : String) (attributes : List Attribute) (schema : Attribute) : Prop :=
  schema.name = key ∧ ∃ earlier later, attributes = earlier ++ schema :: later ∧
    ∀ other ∈ earlier ++ later, other.name ≠ key

/-- The attributes by name, the implied one first; of several with one name, the last one. -/
def index (ruleClass : RuleClass) : OrderedMap Attribute :=
  .ofList (ruleClass.allAttributes.map fun schema => (schema.name, schema))

/-- A rule class finds the attributes of a list and the implied one, and no others. -/
structure Represents (ruleClass : RuleClass) (attributes : List Attribute) : Prop where
  /-- The implied attribute is a mandatory text without a default. -/
  implied : ruleClass.attribute? "name" = some ⟨"name", .string, .null, true, none, ""⟩
  declared : ∀ key schema, key ≠ "name" →
    (ruleClass.attribute? key = some schema ↔ IsOnly key attributes schema)
  missing : ∀ key, ruleClass.attribute? key = none ↔
    key ≠ "name" ∧ ∀ schema ∈ attributes, schema.name ≠ key
  names : ruleClass.attributeNames = "name" :: attributes.map Attribute.name
  /-- The index holds the same attributes in the same order. -/
  indexed : ∀ key, ruleClass.index.get? key = ruleClass.attribute? key
  indexedNames : ruleClass.index.keys = ruleClass.attributeNames

variable {rule : String} {earlier attributes rest : List Attribute} {schema : Attribute}
  {failure : Error}

/-! ## The first clash -/

theorem Clashes.kind (clashes : Clashes rule earlier schema failure) : failure.kind = .value := by
  cases clashes with
  | reserved => rfl
  | repeated => rfl

theorem distinct_concat_iff :
    Distinct (earlier ++ [schema]) ↔
      Distinct earlier ∧ ∀ failure, ¬Clashes rule earlier schema failure := by
  constructor
  · rintro ⟨notName, nodup⟩
    rw [List.map_append, List.nodup_append] at nodup
    rcases nodup with ⟨nodup, _, apart⟩
    refine ⟨⟨fun other otherMem => notName other (List.mem_append_left _ otherMem), nodup⟩, ?_⟩
    intro failure clashes
    cases clashes with
    | reserved isName => exact notName schema (by simp) isName
    | repeated _ otherMem same =>
        exact apart _ (List.mem_map_of_mem otherMem) schema.name (by simp) same
  · rintro ⟨⟨notName, nodup⟩, sound⟩
    have notReserved : schema.name ≠ "name" := fun isName => sound _ (.reserved isName)
    constructor
    · rw [List.forall_mem_append]
      exact ⟨notName, by simpa using notReserved⟩
    · rw [List.map_append, List.nodup_append]
      refine ⟨nodup, by simp, ?_⟩
      intro name nameMem again againMem same
      rcases List.mem_map.1 nameMem with ⟨other, otherMem, rfl⟩
      rw [List.map_singleton, List.mem_singleton] at againMem
      exact sound _ (.repeated notReserved otherMem (same.trans againMem))

theorem distinct_of_append (distinct : Distinct (earlier ++ rest)) : Distinct earlier := by
  rcases distinct with ⟨notName, nodup⟩
  rw [List.map_append] at nodup
  exact ⟨fun other otherMem => notName other (List.mem_append_left _ otherMem),
    (List.nodup_append.1 nodup).1⟩

theorem not_distinct_of_firstClash (first : FirstClash rule attributes failure) :
    ¬Distinct attributes := by
  rcases first with ⟨earlier, schema, later, rfl, _, clashes⟩
  intro distinct
  rw [List.append_cons] at distinct
  exact (distinct_concat_iff.1 (distinct_of_append distinct)).2 failure clashes

theorem FirstClash.append (first : FirstClash rule attributes failure) (rest : List Attribute) :
    FirstClash rule (attributes ++ rest) failure := by
  rcases first with ⟨earlier, schema, later, rfl, distinct, clashes⟩
  exact ⟨earlier, schema, later ++ rest, by simp, distinct, clashes⟩

theorem distinct_or_firstClash (rule : String) (attributes : List Attribute) :
    Distinct attributes ∨ ∃ failure, FirstClash rule attributes failure := by
  induction attributes using List.reverseRecOn with
  | nil => exact Or.inl ⟨by simp, by simp⟩
  | append_singleton earlier schema ih =>
      rcases ih with distinct | ⟨failure, first⟩
      · by_cases clash : ∃ failure, Clashes rule earlier schema failure
        · rcases clash with ⟨failure, clashes⟩
          exact Or.inr ⟨failure, earlier, schema, [], rfl, distinct, clashes⟩
        · exact Or.inl (distinct_concat_iff.2 ⟨distinct, not_exists.1 clash⟩)
      · exact Or.inr ⟨failure, first.append [schema]⟩

/-! ## The check -/

theorem contains_names_iff {name : String} :
    (earlier.map Attribute.name).reverse.contains name = true ↔
      ∃ other ∈ earlier, other.name = name := by
  rw [List.contains_iff_mem, List.mem_reverse, List.mem_map]

/-- The check stops at an attribute that clashes with those before it. -/
theorem checkNames_of_clashes (clashes : Clashes rule earlier schema failure) :
    checkNames rule (earlier.map Attribute.name).reverse (schema :: rest) = .error failure := by
  cases clashes with
  | reserved isName => rw [checkNames, if_pos isName]
  | repeated notName otherMem same =>
      rw [checkNames, if_neg notName, if_pos (contains_names_iff.2 ⟨_, otherMem, same⟩)]

/-- Past every other attribute it goes on, and has seen one more name. -/
theorem checkNames_of_sound (sound : ∀ failure, ¬Clashes rule earlier schema failure) :
    checkNames rule (earlier.map Attribute.name).reverse (schema :: rest) =
      checkNames rule ((earlier ++ [schema]).map Attribute.name).reverse rest := by
  have notName : schema.name ≠ "name" := fun isName => sound _ (.reserved isName)
  have fresh : ¬(earlier.map Attribute.name).reverse.contains schema.name = true := by
    intro again
    rcases contains_names_iff.1 again with ⟨other, otherMem, same⟩
    exact sound _ (.repeated notName otherMem same)
  rw [checkNames, if_neg notName, if_neg fresh]
  simp

theorem checkNames_append (distinct : Distinct earlier) (rest : List Attribute) :
    checkNames rule [] (earlier ++ rest) =
      checkNames rule (earlier.map Attribute.name).reverse rest := by
  induction earlier using List.reverseRecOn generalizing rest with
  | nil => rfl
  | append_singleton before schema ih =>
      rcases distinct_concat_iff.1 distinct with ⟨distinctBefore, sound⟩
      rw [← List.append_cons, ih distinctBefore, checkNames_of_sound sound]

theorem checkNames_of_distinct (distinct : Distinct attributes) :
    checkNames rule [] attributes = .ok () := by
  have passed : checkNames rule [] (attributes ++ []) = .ok () := checkNames_append distinct []
  rwa [List.append_nil] at passed

/-- The check reports the first clash. -/
theorem checkNames_eq_error_iff :
    checkNames rule [] attributes = .error failure ↔ FirstClash rule attributes failure := by
  have reports : ∀ fault, FirstClash rule attributes fault →
      checkNames rule [] attributes = .error fault := by
    rintro fault ⟨earlier, schema, later, rfl, distinct, clashes⟩
    rw [checkNames_append distinct, checkNames_of_clashes clashes]
  constructor
  · intro failed
    rcases distinct_or_firstClash rule attributes with distinct | ⟨fault, first⟩
    · rw [checkNames_of_distinct distinct] at failed
      cases failed
    · rw [reports fault first] at failed
      cases failed
      exact first
  · exact reports failure

theorem create_eq_error_iff {definition : Label} {doc : String} :
    create rule definition attributes doc = .error failure ↔
      FirstClash rule attributes failure := by
  rw [← checkNames_eq_error_iff]
  unfold create
  split
  · rename_i fault checked
    rw [checked, Except.error.injEq, Except.error.injEq]
  · rename_i checked
    simp [checked]

theorem eq_of_create {definition : Label} {doc : String} {ruleClass : RuleClass}
    (created : create rule definition attributes doc = .ok ruleClass) :
    ruleClass.name = rule ∧ ruleClass.definition = definition ∧
      ruleClass.attributes = attributes ∧ ruleClass.doc = doc := by
  unfold create at created
  split at created
  · cases created
  · cases created
    exact ⟨rfl, rfl, rfl, rfl⟩

/-! ## The index -/

variable {ruleClass : RuleClass}

theorem isOnly_iff {key : String} :
    IsOnly key ruleClass.attributes schema ↔
      schema ∈ ruleClass.attributes ∧ schema.name = key := by
  constructor
  · rintro ⟨named, earlier, later, split, _⟩
    exact ⟨by simp [split], named⟩
  · rintro ⟨schemaMem, rfl⟩
    rcases List.append_of_mem schemaMem with ⟨earlier, later, split⟩
    refine ⟨rfl, earlier, later, split, ?_⟩
    have nodup := ruleClass.nodup_names
    rw [split, List.map_append, List.map_cons, List.nodup_middle, List.nodup_cons,
      ← List.map_append] at nodup
    intro other otherMem same
    apply nodup.1
    rw [← same]
    exact List.mem_map_of_mem otherMem

theorem entries_index (ruleClass : RuleClass) :
    ruleClass.index.entries = ruleClass.allAttributes.map fun schema => (schema.name, schema) := by
  apply OrderedMap.entries_ofList
  rw [List.map_map]
  exact ruleClass.names_nodup

theorem get?_index (ruleClass : RuleClass) (key : String) :
    ruleClass.index.get? key = ruleClass.attribute? key := by
  apply Option.ext
  intro schema
  rw [OrderedMap.get?_eq_some_iff, entries_index, attribute?_eq_some_iff_mem, List.mem_map]
  constructor
  · rintro ⟨other, otherMem, same⟩
    cases same
    exact ⟨otherMem, rfl⟩
  · rintro ⟨schemaMem, rfl⟩
    exact ⟨schema, schemaMem, rfl⟩

theorem keys_index (ruleClass : RuleClass) : ruleClass.index.keys = ruleClass.attributeNames := by
  rw [OrderedMap.keys, entries_index, List.map_map]
  rfl

theorem represents (ruleClass : RuleClass) : ruleClass.Represents ruleClass.attributes where
  implied := ruleClass.attribute?_name
  declared key schema notName := by rw [attribute?_eq_some_iff notName, isOnly_iff]
  missing key := by
    rw [attribute?_eq_none_iff, attributeNames, allAttributes, List.map_cons, List.mem_cons, not_or,
      List.mem_map]
    simp only [not_exists, not_and]
    rfl
  names := rfl
  indexed := ruleClass.get?_index
  indexedNames := ruleClass.keys_index

/--
A rule class can be made of a list of attributes exactly if these are distinct; otherwise
the first attribute that clashes with those before it is reported as an unusable value.
What is made represents the list: an attribute is found by its name, by search and by
index alike, and the names are listed in the order of the attributes.
-/
theorem create_represents (name : String) (definition : Label) (attributes : List Attribute)
    (doc : String) :
    ((∃ ruleClass, create name definition attributes doc = .ok ruleClass) ↔
      Distinct attributes) ∧
    (∀ failure, create name definition attributes doc = .error failure ↔
      FirstClash name attributes failure) ∧
    (∀ failure, FirstClash name attributes failure → failure.kind = .value) ∧
    ∀ ruleClass, create name definition attributes doc = .ok ruleClass →
      ruleClass.name = name ∧ ruleClass.definition = definition ∧ ruleClass.doc = doc ∧
      ruleClass.Represents attributes := by
  refine ⟨?_, fun failure => create_eq_error_iff, ?_, ?_⟩
  · rcases made : create name definition attributes doc with failure | ruleClass
    · simpa using not_distinct_of_firstClash (create_eq_error_iff.1 made)
    · rcases distinct_or_firstClash name attributes with distinct | ⟨failure, first⟩
      · simpa using distinct
      · rw [create_eq_error_iff.2 first] at made
        cases made
  · rintro failure ⟨earlier, schema, later, _, _, clashes⟩
    exact clashes.kind
  · intro ruleClass created
    rcases eq_of_create created with ⟨named, defined, rfl, documented⟩
    exact ⟨named, defined, documented, ruleClass.represents⟩

/-- Of two clashes the first is reported, whatever its kind. -/
example :
    let named (name : String) : Attribute := ⟨name, .string, .null, false, none, ""⟩
    create "r" default [named "a", named "b", named "a", named "name"] "" =
        .error (.duplicateAttribute "a" "r") ∧
      create "r" default [named "a", named "name", named "a"] "" = .error (.redefinedName "r") :=
  ⟨rfl, rfl⟩

end ExternalRepos.RuleClass

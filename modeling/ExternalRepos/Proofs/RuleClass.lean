import ExternalRepos.RuleClass

/-!
# Looking up attributes

No two attributes of a rule class have the same name, the implied one included,
so the attribute of a name is the one that has it.
-/

namespace ExternalRepos.RuleClass

variable {ruleClass : RuleClass} {schema : Attribute}

theorem find?_name_of_mem {attributes : List Attribute}
    (nodup : (attributes.map Attribute.name).Nodup) (schemaMem : schema ∈ attributes) :
    attributes.find? (fun other => other.name = schema.name) = some schema := by
  induction attributes with
  | nil => simp at schemaMem
  | cons first rest ih =>
      simp only [List.map_cons, List.nodup_cons] at nodup
      rcases List.mem_cons.1 schemaMem with rfl | later
      · simp
      · have different : first.name ≠ schema.name := by
          intro same
          apply nodup.1
          rw [same]
          exact List.mem_map_of_mem later
        rw [List.find?_cons_of_neg (by simpa using different)]
        exact ih nodup.2 later

theorem nodup_names (ruleClass : RuleClass) : (ruleClass.attributes.map Attribute.name).Nodup :=
  (List.nodup_cons.1 ruleClass.names_nodup).2

theorem name_ne_of_mem (schemaMem : schema ∈ ruleClass.attributes) : schema.name ≠ "name" := by
  intro same
  apply (List.nodup_cons.1 ruleClass.names_nodup).1
  rw [← same]
  exact List.mem_map_of_mem schemaMem

theorem attribute?_name (ruleClass : RuleClass) :
    ruleClass.attribute? "name" = some Attribute.nameAttribute := rfl

theorem attribute?_of_mem (schemaMem : schema ∈ ruleClass.attributes) :
    ruleClass.attribute? schema.name = some schema := by
  rw [attribute?, if_neg (name_ne_of_mem schemaMem)]
  exact find?_name_of_mem ruleClass.nodup_names schemaMem

theorem eq_of_name_eq {other : Attribute} (schemaMem : schema ∈ ruleClass.attributes)
    (otherMem : other ∈ ruleClass.attributes) (same : other.name = schema.name) :
    other = schema := by
  have found := attribute?_of_mem otherMem
  rw [same, attribute?_of_mem schemaMem] at found
  exact (Option.some.inj found).symm

/-- Apart from the implied one, the attribute of a name is the one that has it. -/
theorem attribute?_eq_some_iff {key : String} (notName : key ≠ "name") :
    ruleClass.attribute? key = some schema ↔
      schema ∈ ruleClass.attributes ∧ schema.name = key := by
  constructor
  · intro found
    rw [attribute?, if_neg notName] at found
    have named := List.find?_some found
    exact ⟨List.mem_of_find?_eq_some found, by simpa using named⟩
  · rintro ⟨schemaMem, rfl⟩
    exact attribute?_of_mem schemaMem

/-- The attribute of a name is the one that has it, the implied one included. -/
theorem attribute?_eq_some_iff_mem {key : String} :
    ruleClass.attribute? key = some schema ↔
      schema ∈ ruleClass.allAttributes ∧ schema.name = key := by
  rw [allAttributes, List.mem_cons]
  by_cases isName : key = "name"
  · subst isName
    rw [attribute?_name, Option.some.injEq]
    constructor
    · rintro rfl
      exact ⟨Or.inl rfl, rfl⟩
    · rintro ⟨rfl | schemaMem, same⟩
      · rfl
      · exact absurd same (name_ne_of_mem schemaMem)
  · rw [attribute?_eq_some_iff isName]
    constructor
    · rintro ⟨schemaMem, same⟩
      exact ⟨Or.inr schemaMem, same⟩
    · rintro ⟨rfl | schemaMem, rfl⟩
      · exact absurd rfl isName
      · exact ⟨schemaMem, rfl⟩

theorem attribute?_eq_none_iff {key : String} :
    ruleClass.attribute? key = none ↔ key ∉ ruleClass.attributeNames := by
  rw [Option.eq_none_iff_forall_ne_some, attributeNames, List.mem_map]
  simp only [ne_eq, attribute?_eq_some_iff_mem, not_exists]

end ExternalRepos.RuleClass

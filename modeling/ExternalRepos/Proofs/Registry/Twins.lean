import ExternalRepos.Proofs.Materializer.Named
import ExternalRepos.Proofs.Registry.Log

/-!
# Registries with different prefixes

Twins are registries with the schema materializer that were set up alike except
for the prefix and the directories, and that hold the same declarations. The
prefix goes into the value of `name` that the materializer sees, the directories
and the semantics version into other fields of its request. The schema
materializer looks at the value of `name` only to put it into the rule, and not
at the other fields at all; and a specification is read from the rule at other
keys. So twins answer a declaration in the same way and stay twins
(`Twins.declare`); only the error about the seal quotes the prefix.
-/

namespace ExternalRepos.Registry

/-- Registries that differ at most in the prefix, the directories and the recorder. -/
structure Twins (left right : Registry) : Prop where
  leftSchema : left.materializer = .schema
  rightSchema : right.materializer = .schema
  scope : left.scope = right.scope
  handler : left.handler = right.handler
  declarations : left.declarations = right.declarations
  isSealed : left.isSealed = right.isSealed

/-- The same outcome, except that the error about the seal quotes the prefix. -/
def SameButPrefix {α : Type} (leftPrefix rightPrefix : String) (left right : Except Error α) :
    Prop :=
  left = right ∨ left = .error (.sealed leftPrefix) ∧ right = .error (.sealed rightPrefix)

/-- Rules that differ in their names give the same specification. -/
theorem specificationOf_named (ruleClass : RuleClass) (values : OrderedMap Value)
    {left right : Rule} (same : left.SameButName right) :
    specificationOf ruleClass values left = specificationOf ruleClass values right := by
  have reads : ((values.erase "name").traverse fun key _ => left.read key) =
      (values.erase "name").traverse fun key _ => right.read key := by
    apply OrderedMap.traverse_congr
    intro key value found
    have keyMem : key ∈ (values.erase "name").keys :=
      List.mem_map_of_mem (OrderedMap.get?_eq_some_iff.1 found)
    have notName : key ≠ "name" := by
      rw [OrderedMap.keys_erase, List.mem_filter, decide_eq_true_eq] at keyMem
      exact keyMem.2
    exact (same.read_eq notName).symm
  rw [specificationOf, specificationOf, reads]

theorem specified_named (ruleClass : RuleClass) (values : OrderedMap Value)
    {left right : Except Error Rule} (rules : Agree Rule.SameButName left right) :
    (left.mapError materializerFailure).bind (specificationOf ruleClass values) =
      (right.mapError materializerFailure).bind (specificationOf ruleClass values) := by
  apply Agree.eq
  refine (rules.mapError materializerFailure).bind ?_
  intro found other same
  rw [specificationOf_named ruleClass values same]
  exact .refl _

theorem substituted_named (left right : Registry) (name : String) (values : OrderedMap Value) :
    List.Forall₂ SameButName (left.substituted name values).entries
      (right.substituted name values).entries := by
  simp only [substituted, OrderedMap.mapValues, List.forall₂_map_left_iff,
    List.forall₂_map_right_iff, List.forall₂_same]
  intro entry _
  by_cases isName : entry.1 = "name"
  · exact Or.inr ⟨_, _, by rw [if_pos isName, isName], by rw [if_pos isName, isName]⟩
  · exact Or.inl (by rw [if_neg isName, if_neg isName])

namespace Twins

variable {left right : Registry}

theorem record (twins : left.Twins right) (name : String) (declaration : Declaration) :
    (left.record name declaration).Twins (right.record name declaration) :=
  { twins with declarations := by simp only [Registry.record, twins.declarations] }

theorem sealed (twins : left.Twins right) : left.sealed.Twins right.sealed :=
  { twins with isSealed := rfl }

theorem newName_eq (twins : left.Twins right) (isOpen : right.isSealed = false)
    (values : OrderedMap Value) : left.newName values = right.newName values := by
  simp only [newName, twins.isSealed, twins.declarations, isOpen, Bool.false_eq_true, if_false]

/-- Twins answer a declaration in the same way, whatever the semantics versions, and stay twins. -/
theorem declare (twins : left.Twins right) (values : OrderedMap Value) (ruleClass : RuleClass)
    (location : Location) (leftVersion rightVersion : String) :
    let first := left.declare values ruleClass location leftVersion
    let second := right.declare values ruleClass location rightVersion
    first.events = second.events ∧ first.registry.Twins second.registry ∧
      SameButPrefix left.repoPrefix right.repoPrefix first.outcome second.outcome := by
  rcases isSealed : right.isSealed with _ | _
  · have names := twins.newName_eq isSealed values
    rcases named : right.newName values with failure | name
    · simp only [Registry.declare, names, named]
      exact ⟨trivial, twins, Or.inl rfl⟩
    · have scopes : (left.request name values ruleClass leftVersion).scope =
          (right.request name values ruleClass rightVersion).scope := twins.scope
      rcases Materializer.schema_named scopes rfl (left.substituted_named right name values) with
        ⟨events, rules⟩
      simp only [Registry.declare, names, named, twins.leftSchema, twins.rightSchema, events,
        specified_named ruleClass values rules]
      split
      · exact ⟨rfl, twins, Or.inl rfl⟩
      · exact ⟨rfl, twins.record name _, Or.inl rfl⟩
  · have leftSealed : left.isSealed = true := twins.isSealed.trans isSealed
    rw [declare_of_isSealed leftSealed, declare_of_isSealed isSealed]
    exact ⟨rfl, twins, Or.inr ⟨rfl, rfl⟩⟩

end Twins

end ExternalRepos.Registry

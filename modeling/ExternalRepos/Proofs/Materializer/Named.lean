import ExternalRepos.Materializer
import ExternalRepos.Proofs.Except
import ExternalRepos.Proofs.OrderedMap
import ExternalRepos.Proofs.RuleClass
import Mathlib.Data.List.Find
import Mathlib.Data.List.Forall2

/-!
# Materializing under different names

The schema materializer gets the canonical name of a repository among the values
of the call. Keyword values are alike when they differ in that name only: key by
key they are the same, or both are texts under `name` (`SameButName`). The
attribute `name` is a text without deprecation, so there is nothing about a text
that could be reported under that key, and all other checks look at other keys.
Alike values therefore give the same events and the same error, or rules that
differ in their names only (`schema_named`).
-/

namespace ExternalRepos

/-- The same binding, or two texts under `name`. -/
def SameButName (left right : String × Value) : Prop :=
  left = right ∨ ∃ first second, left = ("name", .text first) ∧ right = ("name", .text second)

/-- Rules that differ in their names only. -/
def Rule.SameButName (left right : Rule) : Prop :=
  ∃ name, right = { left with name := name }

theorem Rule.SameButName.read_eq {left right : Rule} (same : left.SameButName right)
    {key : String} (notName : key ≠ "name") : right.read key = left.read key := by
  rcases same with ⟨name, rfl⟩
  simp only [Rule.read, if_neg notName]

namespace SameButName

variable {left right : List (String × Value)}

theorem lookup_eq (same : List.Forall₂ SameButName left right) {key : String}
    (notName : key ≠ "name") : left.lookup key = right.lookup key := by
  induction same with
  | nil => rfl
  | cons here _ ih =>
      rcases here with rfl | ⟨first, second, rfl, rfl⟩
      · rw [List.lookup_cons, List.lookup_cons, ih]
      · rw [OrderedMap.lookup_cons_of_ne notName, OrderedMap.lookup_cons_of_ne notName, ih]

theorem lookup_name (same : List.Forall₂ SameButName left right) :
    left.lookup "name" = right.lookup "name" ∨
      ∃ first second, left.lookup "name" = some (.text first) ∧
        right.lookup "name" = some (.text second) := by
  induction same with
  | nil => exact Or.inl rfl
  | cons here _ ih =>
      rcases here with rfl | ⟨first, second, rfl, rfl⟩
      · rw [List.lookup_cons, List.lookup_cons]
        split
        · exact Or.inl rfl
        · exact ih
      · exact Or.inr ⟨first, second, by simp, by simp⟩

theorem filter_eq (same : List.Forall₂ SameButName left right) :
    (left.filter fun entry => entry.1 ≠ "name") = right.filter fun entry => entry.1 ≠ "name" := by
  induction same with
  | nil => rfl
  | cons here _ ih =>
      rcases here with rfl | ⟨first, second, rfl, rfl⟩
      · rw [List.filter_cons, List.filter_cons, ih]
      · simpa using ih

end SameButName

namespace RuleClass

variable {left right : List (String × Value)}

/-- A text under `name` is stored as it is, and nothing is posted about it. -/
theorem explicitValues_cons_name (ruleClass : RuleClass) (scope : Scope) (name : String)
    (rest : List (String × Value)) :
    ruleClass.explicitValues scope (("name", .text name) :: rest) =
      ⟨(ruleClass.explicitValues scope rest).events,
        (ruleClass.explicitValues scope rest).outcome.map fun values =>
          ("name", .text name) :: values⟩ := rfl

theorem explicitValues_named (ruleClass : RuleClass) (scope : Scope)
    (same : List.Forall₂ SameButName left right) :
    (ruleClass.explicitValues scope left).events = (ruleClass.explicitValues scope right).events ∧
      Agree (List.Forall₂ SameButName) (ruleClass.explicitValues scope left).outcome
        (ruleClass.explicitValues scope right).outcome := by
  induction same with
  | nil => exact ⟨rfl, .ok .nil⟩
  | @cons entry other _ _ here _ ih =>
      rcases ih with ⟨events, outcomes⟩
      rcases here with rfl | ⟨first, second, rfl, rfl⟩
      · rcases entry with ⟨key, given⟩
        unfold explicitValues
        split
        · exact ⟨rfl, .error _⟩
        · split
          · exact ⟨events, outcomes⟩
          · split
            · exact ⟨rfl, .error _⟩
            · refine ⟨by simp only [events], outcomes.map ?_⟩
              intro found others
              exact .cons (Or.inl rfl)
      · rw [explicitValues_cons_name, explicitValues_cons_name]
        refine ⟨events, outcomes.map ?_⟩
        intro found others
        exact .cons (Or.inr ⟨first, second, rfl, rfl⟩)

theorem checkMandatory_named (ruleClass : RuleClass)
    (same : List.Forall₂ SameButName left right) :
    ruleClass.checkMandatory left = ruleClass.checkMandatory right := by
  have found : ∀ schema ∈ ruleClass.attributes,
      (schema.mandatory && (left.lookup schema.name).isNone) =
        (schema.mandatory && (right.lookup schema.name).isNone) := by
    intro schema schemaMem
    rw [SameButName.lookup_eq same (name_ne_of_mem schemaMem)]
  rw [checkMandatory, checkMandatory, List.find?_congr found]

theorem labelDefaults_named (scope : Scope) (same : List.Forall₂ SameButName left right)
    {attributes : List Attribute} (notName : ∀ schema ∈ attributes, schema.name ≠ "name") :
    labelDefaults scope left attributes = labelDefaults scope right attributes := by
  induction attributes with
  | nil => rfl
  | cons first rest ih =>
      have others := ih fun schema later => notName schema (List.mem_cons_of_mem _ later)
      have here := SameButName.lookup_eq same (notName first List.mem_cons_self)
      rw [labelDefaults, labelDefaults, here, others]

theorem instantiate_named (ruleClass : RuleClass) (scope : Scope)
    (same : List.Forall₂ SameButName left right) :
    Agree Rule.SameButName (ruleClass.instantiate scope left)
      (ruleClass.instantiate scope right) := by
  unfold instantiate
  rw [checkMandatory_named ruleClass same,
    labelDefaults_named scope same fun _ => name_ne_of_mem, SameButName.filter_eq same]
  rcases ruleClass.checkMandatory right with failure | _
  · exact .error failure
  · rcases labelDefaults scope right ruleClass.attributes with failure | defaults
    · exact .error failure
    · rcases SameButName.lookup_name same with equal | ⟨first, second, leftName, rightName⟩
      · rw [equal]
        rcases (right.lookup "name").bind Value.text? with _ | name
        · exact .error _
        · exact .ok ⟨name, rfl⟩
      · rw [leftName, rightName]
        exact .ok ⟨second, rfl⟩

end RuleClass

/-- Requests that differ in the name only get the same events, and rules that differ as much. -/
theorem Materializer.schema_named {left right : Request} (scopes : left.scope = right.scope)
    (ruleClasses : left.ruleClass = right.ruleClass)
    (same : List.Forall₂ SameButName left.values.entries right.values.entries) :
    (Materializer.schema left).events = (Materializer.schema right).events ∧
      Agree Rule.SameButName (Materializer.schema left).outcome
        (Materializer.schema right).outcome := by
  simp only [Materializer.schema, scopes, ruleClasses]
  rcases right.ruleClass.explicitValues_named right.scope same with ⟨events, outcomes⟩
  refine ⟨events, outcomes.bind ?_⟩
  intro found other
  exact right.ruleClass.instantiate_named right.scope

end ExternalRepos

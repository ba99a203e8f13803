import ExternalRepos.Materializer
import ExternalRepos.Proofs.Except
import ExternalRepos.Proofs.OrderedMap

/-!
# Larger repository mappings

A mapping that has every entry of another one resolves every name that the other one
resolves, to the same repository or with the same error. Only a name that is not
visible through the smaller mapping can make a difference, and a lookup of such a
name ends whatever it is part of with a failure of its own class. `Persists` says
this of a computation under the two mappings: it failed at a lookup, or it is the
same computation. It is kept by whatever goes on from there in the same way
(`Persists.bind`), so it holds of labels, of values, and in the end of the whole
schema materializer, warnings included. It does not matter who owns the mappings, for the
owner is only named in the errors of lookups.
-/

namespace ExternalRepos

/-- A mapping has all entries of another one. -/
def RepositoryMapping.Enlarges (larger smaller : RepositoryMapping) : Prop :=
  ∀ apparent canonical, smaller.entries.get? apparent = some canonical →
    larger.entries.get? apparent = some canonical

/-- A computation has failed at the lookup of a repository. -/
def FailsAtLookup {α : Type} (outcome : Except Error α) : Prop :=
  ∃ failure, outcome = .error failure ∧ failure.kind = .packageLookup

/-- A computation has failed at the lookup of a repository, or it is the same afterwards. -/
def Persists {α : Type} (before after : Except Error α) : Prop :=
  FailsAtLookup before ∨ after = before

namespace Persists

variable {α β : Type} {before after : Except Error α}

theorem same (outcome : Except Error α) : Persists outcome outcome := Or.inr rfl

theorem bind (persists : Persists before after) {next laterNext : α → Except Error β}
    (goesOn : ∀ found, Persists (next found) (laterNext found)) :
    Persists (before.bind next) (after.bind laterNext) := by
  rcases persists with ⟨failure, rfl, kind⟩ | rfl
  · exact Or.inl ⟨failure, rfl, kind⟩
  · rcases after with failure | found
    · exact .same _
    · exact goesOn found

theorem map (persists : Persists before after) (answer : α → β) :
    Persists (before.map answer) (after.map answer) := by
  rcases persists with ⟨failure, rfl, kind⟩ | rfl
  · exact Or.inl ⟨failure, rfl, kind⟩
  · exact .same _

end Persists

variable {smaller larger : RepositoryMapping}

/-! ## Labels -/

namespace Label

theorem persists_visibleRepository (enlarges : larger.Enlarges smaller) (apparent : String) :
    Persists (visibleRepository smaller apparent) (visibleRepository larger apparent) := by
  unfold visibleRepository
  refine (Persists.same _).bind fun _ => ?_
  by_cases isMain : apparent = ""
  · subst isMain
    rw [RepositoryMapping.resolve?_empty_name, RepositoryMapping.resolve?_empty_name]
    exact .same _
  · rcases found : smaller.entries.get? apparent with _ | canonical
    · refine Or.inl ⟨.notVisible apparent smaller.owner, ?_, rfl⟩
      simp only [RepositoryMapping.resolve?, if_neg isMain, found]
      rfl
    · have kept := enlarges apparent canonical found
      simp only [RepositoryMapping.resolve?, if_neg isMain, found, kept]
      rcases RepositoryName.create canonical with failure | repository
      · exact .same _
      · exact .same _

theorem persists_parse (enlarges : larger.Enlarges smaller) (raw : String) (base : PackageId) :
    Persists (parse raw base smaller) (parse raw base larger) := by
  unfold parse
  split
  case h_3 =>
    -- only an apparent name is looked up
    exact (persists_visibleRepository enlarges _).bind fun _ => .same _
  all_goals exact .same _

end Label

/-! ## Values -/

namespace Scope

/-- The same package with another mapping. -/
def through (scope : Scope) (mapping : RepositoryMapping) : Scope :=
  { scope with mapping := mapping }

variable {scope : Scope} (enlarges : larger.Enlarges scope.mapping)

include enlarges

theorem persists_resolveLabel (value : Value) :
    Persists (scope.resolveLabel value) ((scope.through larger).resolveLabel value) := by
  cases value with
  | text raw => exact ((Label.persists_parse enlarges raw scope.base).map _).map _
  | null | bool | int | float | bytes | list | tuple | dict | map => exact .same _

theorem persists_resolveLabels (items : List Value) :
    Persists (scope.resolveLabels items) ((scope.through larger).resolveLabels items) := by
  induction items with
  | nil => exact .same _
  | cons first rest ih =>
      refine (persists_resolveLabel enlarges first).bind fun label => ?_
      exact ih.bind fun labels => .same _

theorem persists_resolve (type : AttributeType) (value : Value) :
    Persists (scope.resolve type value) ((scope.through larger).resolve type value) := by
  cases type with
  | label => exact persists_resolveLabel enlarges value
  | labelList =>
      simp only [resolve]
      split
      · exact (persists_resolveLabels enlarges _).map _
      · exact .same _
  | string | int | bool | stringList | stringDict => exact .same _

end Scope

namespace Attribute

variable {scope : Scope} (enlarges : larger.Enlarges scope.mapping)

include enlarges

theorem persists_normalize (schema : Attribute) (rule : String) (given : Value) :
    Persists (schema.normalize rule scope given)
      (schema.normalize rule (scope.through larger) given) := by
  unfold normalize
  split
  · exact (Scope.persists_resolve enlarges schema.type given).map _
  · exact .same _

theorem persists_resolvedDefault (schema : Attribute) :
    Persists (schema.resolvedDefault scope) (schema.resolvedDefault (scope.through larger)) :=
  (Scope.persists_resolve enlarges schema.type schema.default).map _

end Attribute

/-! ## Rules -/

namespace RuleClass

variable {scope : Scope} (enlarges : larger.Enlarges scope.mapping) (ruleClass : RuleClass)

include enlarges

/-- The walk through the keywords fails at a lookup or posts the same warnings as before. -/
theorem explicitValues_enlarged (entries : List (String × Value)) :
    FailsAtLookup (ruleClass.explicitValues scope entries).outcome ∨
      ruleClass.explicitValues (scope.through larger) entries =
        ruleClass.explicitValues scope entries := by
  induction entries with
  | nil => exact Or.inr rfl
  | cons entry rest ih =>
      rcases entry with ⟨key, given⟩
      simp only [explicitValues]
      split
      · exact Or.inr rfl
      · rename_i schema _
        split
        · exact ih
        · rcases schema.persists_normalize enlarges ruleClass.name given with
            ⟨failure, failed, kind⟩ | normalized
          · rw [failed]
            exact Or.inl ⟨failure, rfl, kind⟩
          · rw [normalized]
            rcases schema.normalize ruleClass.name scope given with failure | value
            · exact Or.inr rfl
            · rcases ih with ⟨failure, failed, kind⟩ | rest
              · exact Or.inl ⟨failure, map_eq_error_iff.2 failed, kind⟩
              · exact Or.inr (by rw [rest])

theorem persists_labelDefaults (values : List (String × Value)) (attributes : List Attribute) :
    Persists (labelDefaults scope values attributes)
      (labelDefaults (scope.through larger) values attributes) := by
  induction attributes with
  | nil => exact .same _
  | cons schema rest ih =>
      unfold labelDefaults
      split
      · refine (schema.persists_resolvedDefault enlarges).bind fun value => ?_
        exact ih.bind fun others => .same _
      · exact ih

theorem persists_instantiate (values : List (String × Value)) :
    Persists (ruleClass.instantiate scope values)
      (ruleClass.instantiate (scope.through larger) values) := by
  unfold instantiate
  refine (Persists.same _).bind fun _ => ?_
  exact (persists_labelDefaults enlarges values ruleClass.attributes).bind fun _ => .same _

end RuleClass

namespace Materializer

theorem schema_through {request : Request} (enlarges : larger.Enlarges request.scope.mapping)
    (visible : ¬FailsAtLookup (Materializer.schema request).outcome) :
    Materializer.schema { request with scope := request.scope.through larger } =
      Materializer.schema request := by
  have keywords : ¬FailsAtLookup
      (request.ruleClass.explicitValues request.scope request.values.entries).outcome := by
    rintro ⟨failure, failed, kind⟩
    exact visible ⟨failure, bind_eq_error_iff.2 (Or.inl failed), kind⟩
  have same := (request.ruleClass.explicitValues_enlarged enlarges
    request.values.entries).resolve_left keywords
  have persists := (Persists.same (request.ruleClass.explicitValues request.scope
    request.values.entries).outcome).bind (request.ruleClass.persists_instantiate enlarges)
  simp only [Materializer.schema, same]
  exact congrArg (Noted.mk _) (persists.resolve_left visible)

/--
A larger mapping changes failed lookups only. A label that did not fail at a lookup is
read as before, or fails as before. A request to the schema materializer that did not
fail at a lookup is answered as before: with the same warnings, and with the same rule
or the same error.
-/
theorem schema_enlarged (enlarges : larger.Enlarges smaller) :
    (∀ (raw : String) (base : PackageId), ¬FailsAtLookup (Label.parse raw base smaller) →
      Label.parse raw base larger = Label.parse raw base smaller) ∧
    ∀ (request : Request) (base : PackageId),
      ¬FailsAtLookup (Materializer.schema { request with scope := ⟨base, smaller⟩ }).outcome →
      Materializer.schema { request with scope := ⟨base, larger⟩ } =
        Materializer.schema { request with scope := ⟨base, smaller⟩ } := by
  constructor
  · intro raw base visible
    exact (Label.persists_parse enlarges raw base).resolve_left visible
  · intro request base visible
    have sameScope : larger.Enlarges (⟨base, smaller⟩ : Scope).mapping := enlarges
    exact schema_through sameScope visible

/-- Labels seen through two entries, one of which is bad; a third entry is added. -/
theorem schema_enlarged_of_three_entries :
    let smaller : RepositoryMapping := ⟨.ofList [("dep", "dep+1"), ("bad", "no good")], "app"⟩
    let larger : RepositoryMapping :=
      ⟨.ofList [("new", "new+2"), ("bad", "no good"), ("dep", "dep+1")], "app"⟩
    let ruleClass : RuleClass :=
      ⟨"archive", default,
        [⟨"deps", .labelList, .null, false, some "gone", ""⟩,
          ⟨"build", .label, .text "@dep//:x.BUILD", false, none, ""⟩], "", by decide⟩
    let request (deps : List Value) : Request :=
      ⟨default, default, "1", default, "", ruleClass,
        .ofList [("name", .text "tool"), ("deps", .list deps)]⟩
    let answered (mapping : RepositoryMapping) (deps : List Value) :=
      Materializer.schema { request deps with scope := ⟨.root, mapping⟩ }
    larger.Enlarges smaller ∧
    FailsAtLookup (Label.parse "@new//:a" .root smaller) ∧
    Label.parse "@dep//:a" .root larger = Label.parse "@dep//:a" .root smaller ∧
    answered larger [.text "@dep//:a"] = answered smaller [.text "@dep//:a"] ∧
    -- the bad entry comes first, so the new one is not looked up
    answered larger [.text "@bad", .text "@new"] =
      answered smaller [.text "@bad", .text "@new"] := by
  intro smaller larger ruleClass request answered
  have enlarges : larger.Enlarges smaller := by
    intro apparent canonical found
    rcases OrderedMap.mem_of_get?_ofList found |> List.mem_cons.1 with same | same
    · cases same
      rfl
    · cases List.mem_singleton.1 same
      rfl
  have visible {α : Type} {outcome : Except Error α} {found : α} (succeeded : outcome = .ok found) :
      ¬FailsAtLookup outcome := by
    rintro ⟨failure, failed, _⟩
    rw [succeeded] at failed
    cases failed
  have bad : ¬FailsAtLookup (answered smaller [.text "@bad", .text "@new"]).outcome := by
    rintro ⟨failure, failed, kind⟩
    cases failed
    cases kind
  rcases schema_enlarged enlarges with ⟨labels, requests⟩
  exact ⟨enlarges, ⟨_, rfl, rfl⟩, labels _ _ (visible rfl),
    requests (request [.text "@dep//:a"]) _ (visible rfl),
    requests (request [.text "@bad", .text "@new"]) _ bad⟩

end Materializer

end ExternalRepos

import ExternalRepos.Proofs.OrderedMap
import ExternalRepos.Registry

/-!
# Registries as logs

A registry only ever grows at its end. `Registry.Extends log` relates a registry
to a later state of it that has accepted the declarations of `log` since, and
nothing else: the entries are the old ones followed by the new ones, each new
name is one that users may choose, a sealed registry has accepted nothing and
stays sealed, and all that a registry is set up with is what it was. A
declaration and the seal are such extensions (`extends_declare`,
`extends_sealed`), and extensions compose, so what one step keeps a whole run
keeps. `Registry.Holds log` says what can be seen of a registry whose declarations
are those of `log`.
-/

namespace ExternalRepos.Registry

/-- The declaration that a call with these keyword values has added, if it gave a specification. -/
def accepted (values : OrderedMap Value) (location : Location)
    (given : Option Specification) : List (String × Declaration) :=
  match (values.get? "name").bind Value.text?, given with
  | some name, some specification => [(name, ⟨specification, location⟩)]
  | _, _ => []

/-- A registry later on, when it has accepted the declarations of a log in the meantime. -/
structure Extends (registry : Registry) (log : List (String × Declaration))
    (later : Registry) : Prop where
  /-- The log stands behind the declarations that were there. -/
  entries : later.declarations.entries = registry.declarations.entries ++ log
  /-- Users may choose the names in the log. -/
  userProvided : ∀ entry ∈ log, isUserProvided entry.1 = true
  /-- A sealed registry accepts nothing. -/
  log_eq_nil : registry.isSealed = true → log = []
  /-- A sealed registry stays sealed. -/
  isSealed : registry.isSealed = true → later.isSealed = true
  /-- What the registry was set up with does not change. -/
  setup : { later with declarations := registry.declarations, isSealed := registry.isSealed } =
    registry

/-- A registry shows the declarations of a log, each with its location, and nothing else. -/
structure Holds (registry : Registry) (log : List (String × Declaration)) : Prop where
  /-- The specifications are those of the log, in its order. -/
  extract : registry.extract.entries = log.map fun entry => (entry.1, entry.2.specification)
  /-- Every declared name has the location of its declaration. -/
  locationOf : ∀ entry ∈ log, registry.locationOf entry.1 = some entry.2.location
  /-- No other name has a location. -/
  locationOf_eq_none : ∀ name, name ∉ log.map Prod.fst → registry.locationOf name = none
  /-- No name is declared twice. -/
  nodup : (log.map Prod.fst).Nodup
  /-- Users may choose the declared names. -/
  userProvided : ∀ entry ∈ log, isUserProvided entry.1 = true

variable {registry middle later : Registry} {log earlierLog laterLog : List (String × Declaration)}

@[simp]
theorem accepted_none (values : OrderedMap Value) (location : Location) :
    accepted values location none = [] := by
  unfold accepted
  split <;> simp_all

theorem newName_eq_ok_iff {values : OrderedMap Value} {name : String} :
    registry.newName values = .ok name ↔
      registry.isSealed = false ∧ values.get? "name" = some (.text name) ∧
        isUserProvided name = true ∧ registry.declarations.get? name = none := by
  unfold newName
  split
  · rename_i isSealed
    simp [isSealed]
  · rename_i isOpen
    split
    · rename_i given found
      split
      · rename_i allowed
        split
        · rename_i earlier conflict
          simp only [reduceCtorEq, found, Option.some.injEq, Value.text.injEq, false_iff]
          rintro ⟨_, rfl, _, fresh⟩
          simp [fresh] at conflict
        · rename_i fresh
          simp only [Except.ok.injEq, found, Option.some.injEq, Value.text.injEq]
          constructor
          · rintro rfl
            exact ⟨by simpa using isOpen, rfl, allowed, fresh⟩
          · exact fun facts => facts.2.1
      · rename_i forbidden
        simp only [reduceCtorEq, found, Option.some.injEq, Value.text.injEq, false_iff]
        rintro ⟨_, rfl, allowed, _⟩
        exact forbidden allowed
    · rename_i other notText found
      simp only [reduceCtorEq, found, Option.some.injEq, false_iff]
      rintro ⟨_, rfl, _⟩
      exact notText _ rfl
    · rename_i missing
      simp [missing]

/-- A declaration fails and leaves the registry alone, or it has a new name and is recorded. -/
theorem declare_cases (registry : Registry) (values : OrderedMap Value) (ruleClass : RuleClass)
    (location : Location) (semanticsVersion : String) :
    (∃ failure,
      (registry.declare values ruleClass location semanticsVersion).outcome = .error failure ∧
      (registry.declare values ruleClass location semanticsVersion).registry = registry) ∨
    (∃ name specification, registry.newName values = .ok name ∧
      (registry.declare values ruleClass location semanticsVersion).outcome = .ok specification ∧
      (registry.declare values ruleClass location semanticsVersion).registry =
        registry.record name ⟨specification, location⟩) := by
  unfold declare
  split
  · exact Or.inl ⟨_, rfl, rfl⟩
  · rename_i name named
    simp only
    split
    · exact Or.inl ⟨_, rfl, rfl⟩
    · exact Or.inr ⟨name, _, named, rfl, rfl⟩

namespace Extends

theorem refl (registry : Registry) : registry.Extends [] registry where
  entries := by simp
  userProvided := by simp
  log_eq_nil := fun _ => rfl
  isSealed := id
  setup := rfl

theorem trans (first : registry.Extends earlierLog middle)
    (second : middle.Extends laterLog later) :
    registry.Extends (earlierLog ++ laterLog) later where
  entries := by rw [second.entries, first.entries, List.append_assoc]
  userProvided := by
    intro entry entryMem
    rcases List.mem_append.1 entryMem with early | late
    · exact first.userProvided entry early
    · exact second.userProvided entry late
  log_eq_nil := fun wasSealed => by
    simp [first.log_eq_nil wasSealed, second.log_eq_nil (first.isSealed wasSealed)]
  isSealed := fun wasSealed => second.isSealed (first.isSealed wasSealed)
  setup := by
    rw [← first.setup, ← second.setup]

/-- What adds nothing can come after any extension. -/
theorem trans_nil (first : registry.Extends log middle) (second : middle.Extends [] later) :
    registry.Extends log later := by
  simpa using first.trans second

theorem repoPrefix_eq (extension : registry.Extends log later) :
    later.repoPrefix = registry.repoPrefix := by
  rw [← extension.setup]

/-- A registry that began without declarations holds what it has accepted since. -/
theorem holds (extension : registry.Extends log later) (began : registry.declarations = ∅) :
    later.Holds log := by
  have entries : later.declarations.entries = log := by
    rw [extension.entries, began]
    rfl
  subst entries
  exact {
    extract := rfl
    locationOf := by
      intro entry entryMem
      rw [Registry.locationOf, OrderedMap.get?_eq_some_iff.2 entryMem]
      rfl
    locationOf_eq_none := by
      intro name absent
      rw [Registry.locationOf, OrderedMap.get?_eq_none_iff.2 absent]
      rfl
    nodup := later.declarations.keys_nodup
    userProvided := extension.userProvided }

end Extends

theorem extends_record {name : String} {values : OrderedMap Value}
    (named : registry.newName values = .ok name) (declaration : Declaration) :
    registry.Extends [(name, declaration)] (registry.record name declaration) := by
  rcases newName_eq_ok_iff.1 named with ⟨isOpen, _, allowed, fresh⟩
  exact {
    entries := OrderedMap.entries_insert_of_get?_eq_none declaration fresh
    userProvided := by simpa using allowed
    log_eq_nil := fun isSealed => by simp [isOpen] at isSealed
    isSealed := fun isSealed => isSealed
    setup := rfl }

/-- A declaration adds to the log exactly when it succeeds. -/
theorem extends_declare (registry : Registry) (values : OrderedMap Value) (ruleClass : RuleClass)
    (location : Location) (semanticsVersion : String) :
    registry.Extends
      (accepted values location
        (registry.declare values ruleClass location semanticsVersion).outcome.toOption)
      (registry.declare values ruleClass location semanticsVersion).registry := by
  rcases registry.declare_cases values ruleClass location semanticsVersion with
    ⟨failure, failed, unchanged⟩ | ⟨name, specification, named, succeeded, recorded⟩
  · rw [failed, unchanged, Except.toOption, accepted_none]
    exact .refl registry
  · have given := (newName_eq_ok_iff.1 named).2.1
    have entry : accepted values location (some specification) =
        [(name, ⟨specification, location⟩)] := by
      simp [accepted, given, Value.text?]
    rw [succeeded, recorded, Except.toOption, entry]
    exact extends_record named _

theorem extends_sealed (registry : Registry) : registry.Extends [] registry.sealed where
  entries := by simp [Registry.sealed]
  userProvided := by simp
  log_eq_nil := fun _ => rfl
  isSealed := fun _ => rfl
  setup := rfl

/-- A declaration in a sealed registry fails, whatever it asks for. -/
theorem declare_of_isSealed (isSealed : registry.isSealed = true) (values : OrderedMap Value)
    (ruleClass : RuleClass) (location : Location) (semanticsVersion : String) :
    registry.declare values ruleClass location semanticsVersion =
      ⟨registry, none, [], .error (.sealed registry.repoPrefix)⟩ := by
  simp [declare, newName, isSealed]

end ExternalRepos.Registry

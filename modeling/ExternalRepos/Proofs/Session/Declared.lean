import ExternalRepos.Proofs.Except
import ExternalRepos.Proofs.Session.Log

/-!
# Declarations of a session

Whichever of the three ways a declaration takes, it ends at the registry that the
operation targets, and what the operation answers is what that registry makes of
it (`perform_of_target?`). A rule call can be refused before it gets there, when a
keyword has the name of one of its parameters; the other two ways cannot.

Conversely, whatever is found in the log of a run was put there by one operation
of the run, at the state that the run had reached by then
(`exists_of_mem_acceptedBy`).
-/

namespace ExternalRepos

namespace Registry.Extends

variable {registry later : Registry} {log : List (String × Declaration)}

theorem scope_eq (extension : registry.Extends log later) : later.scope = registry.scope := by
  rw [← extension.setup]

theorem materializer_eq (extension : registry.Extends log later) :
    later.materializer = registry.materializer := by
  rw [← extension.setup]

end Registry.Extends

namespace Store.Operation

/-- The rule class whose repository an operation declares. -/
def ruleClass? : Operation → Option RuleClass
  | .declare _ _ ruleClass _ _ => some ruleClass
  | .createRepo _ _ _ ruleClass _ => some ruleClass
  | .call _ ruleClass _ _ => some ruleClass
  | _ => none

/-- A rule call has no keyword that is named like one of its parameters. -/
def KeywordsAllowed : Operation → Prop
  | .call _ ruleClass values _ => checkKeywords ruleClass values = .ok ()
  | _ => True

variable {settings : Settings} {store : Store} {operation : Operation} {reference : Reference}
  {values : OrderedMap Value} {ruleClass : RuleClass} {location : Location} {registry : Registry}

/-- A declaration answers what the targeted registry makes of it. -/
theorem perform_of_target?
    (targeted : operation.target? store = some (reference, values, location))
    (classed : operation.ruleClass? = some ruleClass) (allowed : operation.KeywordsAllowed)
    (present : store.registries.get? reference = some registry) :
    ∃ version, (operation.perform settings store).2 =
      (registry.declare values ruleClass location version).outcome.map .declared := by
  cases operation with
  | declare _ _ _ _ version =>
      cases targeted
      cases classed
      refine ⟨settings.chooseVersion version, ?_⟩
      simp only [perform, declare_of_get? present]
  | createRepo context =>
      cases classed
      rcases Option.map_eq_some_iff.1 targeted with ⟨caller, callerPresent, same⟩
      cases same
      refine ⟨settings.chooseVersion (some caller.semanticsVersion), ?_⟩
      simp only [perform, createRepo_of_get? callerPresent, declare_of_get? present]
  | call context _ _ position =>
      cases classed
      rcases Option.map_eq_some_iff.1 targeted with ⟨target, found, same⟩
      cases same
      rcases Option.bind_eq_some_iff.1 found with ⟨entered, callerPresent, attached⟩
      have moved : (store.setCaller context location).registries.get? reference = some registry :=
        present
      refine ⟨settings.chooseVersion (some entered.semanticsVersion), ?_⟩
      simp only [perform, call_of_attached allowed callerPresent attached, declare_of_get? moved]
  | extract | locationOf | inspectRegistry | sealRegistry | createRegistry | inspectContext
  | createContext | setCaller | attach | detach | inspectHandler | createHandler | post
  | clearEvents | inspectRecorder | createVendor | mark => cases targeted

theorem keywordsAllowed_of_perform {reply : Reply}
    (succeeded : (operation.perform settings store).2 = .ok reply) :
    operation.KeywordsAllowed := by
  cases operation with
  | call context ruleClass values position =>
      show checkKeywords ruleClass values = .ok ()
      rcases keywords : checkKeywords ruleClass values with failure | _
      · have refused : store.call settings context ruleClass values position =
            (store, .error failure) := by
          simp [Store.call, keywords]
        simp only [perform, refused] at succeeded
        cases succeeded
      · rfl
  | declare | createRepo | extract | locationOf | inspectRegistry | sealRegistry | createRegistry
  | inspectContext | createContext | setCaller | attach | detach | inspectHandler | createHandler
  | post | clearEvents | inspectRecorder | createVendor | mark => trivial

theorem exists_ruleClass_of_target?
    (targeted : operation.target? store = some (reference, values, location)) :
    ∃ ruleClass, operation.ruleClass? = some ruleClass := by
  cases operation with
  | declare | createRepo | call => exact ⟨_, rfl⟩
  | extract | locationOf | inspectRegistry | sealRegistry | createRegistry | inspectContext
  | createContext | setCaller | attach | detach | inspectHandler | createHandler | post
  | clearEvents | inspectRecorder | createVendor | mark => cases targeted

/-- An operation that declares something does so in a registry. -/
theorem exists_declare_of_perform {specification : Specification}
    (targeted : operation.target? store = some (reference, values, location))
    (classed : operation.ruleClass? = some ruleClass)
    (present : store.registries.get? reference = some registry)
    (declared : (operation.perform settings store).2 = .ok (.declared specification)) :
    ∃ version,
      (registry.declare values ruleClass location version).outcome = .ok specification := by
  have allowed := keywordsAllowed_of_perform declared
  rcases perform_of_target? targeted classed allowed present with ⟨version, answered⟩
  rw [answered] at declared
  rcases exists_of_map_eq_ok declared with ⟨same, outcome, sameEq⟩
  cases sameEq
  exact ⟨version, outcome⟩

/-- What an operation adds to a registry is what it has declared there. -/
theorem of_mem_accepted {entry : String × Declaration}
    (entryMem : entry ∈ operation.accepted settings reference store) :
    ∃ values, operation.target? store = some (reference, values, entry.2.location) ∧
      values.get? "name" = some (.text entry.1) ∧
      (operation.perform settings store).2 = .ok (.declared entry.2.specification) := by
  unfold accepted at entryMem
  split at entryMem
  · rename_i target values location targeted
    split at entryMem
    · rename_i here
      subst here
      unfold Registry.accepted at entryMem
      split at entryMem
      · rename_i name specification named given
        rw [List.mem_singleton] at entryMem
        subst entryMem
        rcases Option.bind_eq_some_iff.1 named with ⟨text, textEq, nameEq⟩
        rcases Option.bind_eq_some_iff.1 given with ⟨reply, replied, specified⟩
        refine ⟨values, targeted, ?_, ?_⟩
        · rw [textEq]
          cases text <;> cases nameEq
          rfl
        · rcases outcome : (operation.perform settings store).2 with failure | answer
          · rw [outcome] at replied
            cases replied
          · rw [outcome] at replied
            cases replied
            cases reply <;> cases specified
            rfl
      · simp at entryMem
    · simp at entryMem
  · simp at entryMem

/-- What a run adds to a registry is added by one of its operations. -/
theorem exists_of_mem_acceptedBy {operations : List Operation} {entry : String × Declaration}
    (entryMem : entry ∈ acceptedBy settings reference operations store) :
    ∃ earlier operation later, operations = earlier ++ operation :: later ∧
      entry ∈ operation.accepted settings reference (runAll settings earlier store) := by
  induction operations generalizing store with
  | nil => simp [acceptedBy] at entryMem
  | cons first rest ih =>
      rcases List.mem_append.1 entryMem with here | further
      · exact ⟨[], first, rest, rfl, here⟩
      · rcases ih further with ⟨earlier, operation, later, rfl, added⟩
        exact ⟨first :: earlier, operation, later, rfl, added⟩

end Store.Operation

end ExternalRepos

import ExternalRepos.Proofs.Isolation.Step

/-!
# Performing the steps of a group

One case for each step that has no steps inside: what it names is found in both sessions
or in neither, and what it does with that is the same (`Matches.perform`).
-/

namespace ExternalRepos.Group

variable {group : Group} {links : Links} {shared alone : Store}

namespace Matches

theorem delegates (same : group.Matches links shared alone) {delegate : Delegate}
    (forwards : group.Forwards delegate.handler?) :
    Agree (List.Forall₂ links) (Step.delegates shared delegate)
      (Step.delegates alone delegate) := by
  cases delegate with
  | none => exact .ok .nil
  | log => exact .ok .nil
  | handler id =>
      apply (same.handlerOf (forwards id rfl)).map
      intro reference other linked
      exact same.listeners linked

theorem attachedIds_eq (same : group.Matches links shared alone) {context : Context}
    (here : SameContext group.registries group.contexts context context) :
    Step.attachedIds shared context = Step.attachedIds alone context := by
  rcases attached : context.registry with _ | registry
  · simp only [Step.attachedIds, attached, Option.map_none]
  · have current := same.registries.current?_eq (here.registry registry attached)
    simp only [Step.attachedIds, attached, Option.map_some, current]

theorem stateOf_eq (same : group.Matches links shared alone) {context : Context}
    (here : SameContext group.registries group.contexts context context) :
    Step.stateOf shared context = Step.stateOf alone context := by
  rcases attached : context.registry with _ | registry
  · simp only [Step.stateOf, attached, Option.bind_none, Option.map_none]
  · rcases same.registries.get?_cases (here.registry registry attached) with
      ⟨missing, absent⟩ | ⟨log, other, found, present, alike⟩
    · simp only [Step.stateOf, attached, Option.bind_some, missing, absent]
    · have written : log.written = other.written := alike.shows fun _ _ => rfl
      have isSealed : log.isSealed = other.isSealed := alike.shows fun _ _ => rfl
      simp only [Step.stateOf, attached, Option.bind_some, found, present, Option.map_some, written,
        isSealed]

/-- What is attached to a context of the group, as it shows itself. -/
theorem lookAtAttached (same : group.Matches links shared alone) {context : Reference}
    (mine : group.contexts context.id) (what : String) :
    Agree (fun answer shown => answer.plain = shown.plain)
      (do
        let attached ← shared.attachedRegistry context what
        let registry ← required (shared.registries.get? attached) attached.id
        return Answer.text registry.written)
      (do
        let attached ← alone.attachedRegistry context what
        let registry ← required (alone.registries.get? attached) attached.id
        return Answer.text registry.written) := by
  have contexts := same.context_eq mine
  rcases present : alone.contexts.get? context with _ | entered
  · simp only [Store.attachedRegistry, contexts, present]
    exact .error _
  · rcases held : entered.registry with _ | registry
    · simp only [Store.attachedRegistry, contexts, present, Option.bind_some, held]
      exact .error _
    · have target := (same.context_leads mine present).registry registry held
      simp only [Store.attachedRegistry, contexts, present, Option.bind_some, held]
      refine Agree.bind (same.requiredRegistry target registry.id) ?_
      intro log other alike
      exact .ok (congrArg Answer.text (alike.shows fun _ _ => rfl))

/-- A step without steps inside that names objects of the group only. -/
theorem perform (same : group.Matches links shared alone) (environment : Environment)
    {step : Step} (within : step.Within group) :
    group.Simulates links shared alone (step.perform environment shared)
      (step.perform environment alone) := by
  cases step with
  | createRegistry id repoPrefix scope directories handler recording =>
      rcases within with ⟨mine, named, records⟩
      have created := same.createRegistryIn mine named records repoPrefix scope directories
      apply created.simulates
      intro later sameLater
      exact sameLater.lookAtRegistry mine fun _ _ => rfl
  | declare registry rule arguments location version =>
      rcases within with ⟨mine, reuses⟩
      apply same.declaration mine
      rw [same.argumentValues_eq reuses, same.registryOf_eq mine]
      rcases alone.argumentValues arguments with failure | values
      · exact .error failure
      · rcases named : alone.registryOf registry with failure | reference
        · exact .error failure
        · rcases required (environment.rules.get? rule) rule with failure | ruleClass
          · exact .error failure
          · have target : group.registries reference.id := holds_of_required named mine
            rcases same.declare environment.settings target values ruleClass location version with
              ⟨declared, outcomes⟩
            exact .ok ⟨declared.proceeds, congrArg (Except.map _) outcomes⟩
  | createRepo registry context rule arguments location =>
      rcases within with ⟨mine, calling, reuses⟩
      apply same.declaration mine
      rw [same.argumentValues_eq reuses, same.registryOf_eq mine, same.contextOf_eq calling]
      rcases alone.argumentValues arguments with failure | values
      · exact .error failure
      · rcases named : alone.registryOf registry with failure | reference
        · exact .error failure
        · rcases called : alone.contextOf context with failure | caller
          · exact .error failure
          · rcases required (environment.rules.get? rule) rule with failure | ruleClass
            · exact .error failure
            · have target : group.registries reference.id := holds_of_required named mine
              rcases same.createRepo environment.settings (holds_of_required called calling) target
                values ruleClass location with ⟨declared, outcomes⟩
              exact .ok ⟨declared.proceeds, congrArg (Except.map _) outcomes⟩
  | call registry context rule arguments position =>
      rcases within with ⟨mine, calling, reuses⟩
      apply same.declaration mine
      rw [same.argumentValues_eq reuses, same.contextOf_eq calling]
      rcases required (environment.rules.get? rule) rule with failure | ruleClass
      · exact .error failure
      · rcases called : alone.contextOf context with failure | caller
        · exact .error failure
        · rcases alone.argumentValues arguments with failure | values
          · exact .error failure
          · have entered : group.contexts caller.id := holds_of_required called calling
            rcases same.call environment.settings entered ruleClass values position with
              ⟨declared, outcomes⟩
            have told := declared.1.context_eq entered
            refine .ok ⟨declared.proceeds, ?_⟩
            exact congrArg₂ (fun (outcome : Except Error Specification) (after : Option Context) =>
              outcome.map fun _ => Answer.called ((after.map Context.caller).getD .builtin))
              outcomes told
  | extract | toValues | locationOf | contains | size | describe | isSealed =>
      exact same.lookAtRegistry within fun _ _ => rfl
  | sealRegistry registry =>
      apply same.change
      rw [same.registryOf_eq within]
      rcases named : alone.registryOf registry with failure | reference
      · exact .error failure
      · exact .ok (same.sealRegistry (holds_of_required named within)).proceeds
  | requests recorder =>
      apply same.look
      rw [same.recorders.current?_eq within]
      rcases alone.recorders.current? recorder with _ | reference
      · exact .error _
      · exact .ok rfl
  | createContext id label version =>
      have created := same.addContext within
        (sameContext_create _ _ environment.settings label version)
      apply created.proceeds.simulates
      intro later sameLater
      exact sameLater.look (.ok rfl)
  | contextState context =>
      apply same.look
      apply (same.contextNow within).map
      intro entered other here
      have equal := here.equal
      subst equal
      rw [same.stateOf_eq here]
  | setCaller context caller =>
      apply same.changeContext within
      intro reference entered
      exact same.setCaller entered caller
  | attach context registry =>
      rcases within with ⟨entering, mine⟩
      apply same.change
      rw [same.registryOf_eq mine, same.contextOf_eq entering]
      rcases named : alone.registryOf registry with failure | attached
      · exact .error failure
      · rcases entered : alone.contextOf context with failure | reference
        · exact .error failure
        · have target : group.registries attached.id := holds_of_required named mine
          exact .ok (same.attachRegistry (holds_of_required entered entering) target).proceeds
  | detach => exact same.changeContext within fun _ entered => same.detachRegistry entered
  | attached context =>
      apply same.look
      apply (same.contextNow within).map
      intro entered other here
      have equal := here.equal
      subst equal
      rw [same.attachedIds_eq here]
  | attachedOrFail context what =>
      apply same.look
      rw [same.contextOf_eq within]
      rcases named : alone.contextOf context with failure | reference
      · exact .error failure
      · exact same.lookAtAttached (holds_of_required named within) what
  | createHandler id delegate =>
      rcases within with ⟨mine, forwards⟩
      apply same.change
      apply (same.delegates forwards).map
      intro heard others passed
      rcases same.addHandler (Or.inl mine) passed with ⟨sameLater, advances⟩
      exact ⟨_, sameLater.narrow, advances⟩
  | post handler kind message location =>
      apply same.change
      apply (same.handlerOf within).bind
      intro reference other linked
      rcases EventKind.ofName? kind with _ | severity
      · exact .error _
      · exact .ok (same.post linked _).proceeds
  | events handler =>
      apply same.look
      apply (same.handlerNow within).map
      intro kept other here
      simp only [Answer.plain, here.events]
  | clearEvents handler =>
      apply same.change
      apply (same.handlerOf within).map
      intro reference other linked
      exact (same.clearEvents linked).proceeds
  | createVendor => exact same.changeContext within fun _ entered => same.addVendor entered
  | ignore | pin => exact same.markIn within _ _ _
  | raise failure => exact same.look (.error failure)
  | evaluate | vendorFile | catching => exact same.look (.ok rfl)

end Matches

end ExternalRepos.Group

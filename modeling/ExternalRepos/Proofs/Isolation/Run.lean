import ExternalRepos.Proofs.Isolation.Perform

/-!
# Bodies of a group

An evaluation creates a handler, a registry and a context, runs its body, and seals and
detaches the registry; a vendor file creates a context with marks. Both do so in the group
of the step that they belong to, with one handler more that may be named. So the steps
with steps inside are simulated if the steps inside are, and by induction on the step all
of them are (`Matches.run_and_runBody`).
-/

namespace ExternalRepos.Group

variable {group : Group} {links : Links} {shared alone : Store}

namespace Matches

theorem forwards (same : group.Matches links shared alone) {evaluation : Evaluation}
    (within : group.Forwards evaluation.forward) :
    Agree (List.Forall₂ links) (evaluation.forwards shared) (evaluation.forwards alone) := by
  unfold Evaluation.forwards
  rcases named : evaluation.forward with _ | id
  · exact .ok .nil
  · apply (same.handlerOf (within id named)).map
    intro reference other linked
    exact same.listeners linked

/-- The objects of an evaluation are those of the group in both sessions. -/
theorem enter (same : group.Matches links shared alone) {evaluation : Evaluation}
    (within : evaluation.Within group) (settings : Settings) {materializer : Materializer}
    (ignoresHandler : materializer.IgnoresHandler) {heard others : List Reference}
    (passed : List.Forall₂ links heard others) :
    let entered := evaluation.enter settings materializer heard shared
    let other := evaluation.enter settings materializer others alone
    entered.context = other.context ∧ entered.registry = other.registry ∧
      ∃ later, later entered.handler other.handler ∧
        (group.naming Evaluation.handlerId).Matches later entered.store other.store ∧
        group.Advances links later shared entered.store alone other.store := by
  have mine : group.adds Evaluation.handlerId := Or.inr ⟨within.evaluates, rfl⟩
  have contexts := same.contexts.next_eq within.context
  have registries := same.registries.next_eq within.registry
  rcases same.addHandler mine passed with ⟨posted, advances⟩
  have created := posted.addRegistryFor within.registry (Or.inr ⟨rfl, rfl⟩) ignoresHandler
    within.records (evaluation.repoPrefix settings) evaluation.scope
    ⟨settings.workspaceRoot, settings.outputBase⟩
  have target : group.registries (alone.registries.next evaluation.registry).id := within.registry
  have leads := (sameContext_create group.registries group.contexts settings (some evaluation.id)
    evaluation.version).attach target
  have attached := created.1.addContext within.context leads
  refine ⟨contexts, registries, Links.adding links _ _, Or.inr ⟨rfl, rfl⟩, ?_, ?_⟩
  · simp only [Evaluation.enter, registries]
    exact attached.1
  · simp only [Evaluation.enter, registries]
    exact advances.trans ((created.2.trans attached.2).narrow mine)

theorem leave (same : group.Matches links shared alone) {entered other : Evaluation.Entered}
    (contexts : entered.context = other.context) (registries : entered.registry = other.registry)
    (context : group.contexts other.context.id) (registry : group.registries other.registry.id) :
    group.Follows links shared alone (Evaluation.leave entered shared)
      (Evaluation.leave other alone) := by
  have isSealed := same.sealRegistry registry
  have detached := isSealed.1.detachRegistry context
  rw [Evaluation.leave, Evaluation.leave, contexts, registries]
  exact isSealed.trans detached

/-- The result of an evaluation shows its registry and the events of its handler. -/
theorem result_eq (same : group.Matches links shared alone) (evaluation : Evaluation)
    {entered other : Evaluation.Entered} (registries : entered.registry = other.registry)
    (registry : group.registries other.registry.id)
    (linked : links entered.handler other.handler)
    (prefixes : entered.repoPrefix = other.repoPrefix) :
    evaluation.result entered shared = evaluation.result other alone := by
  rcases same.handlers.found linked with ⟨handler, another, found, present, here⟩
  rcases same.registries.get?_cases registry with
    ⟨missing, absent⟩ | ⟨log, kept, logFound, keptFound, alike⟩
  · simp only [Evaluation.result, registries, prefixes, found, present, here.events, missing,
      absent, Option.map_some]
  · have extracted : log.extract = kept.extract := alike.shows fun _ _ => rfl
    simp only [Evaluation.result, registries, prefixes, found, present, here.events, logFound,
      keptFound, extracted, Option.map_some]

end Matches

/-- What a step tells of a body that has run in both sessions. -/
theorem Simulates.enclosing {ran other : Outcome} {answer another : Except Error Answer}
    (proceeds : group.Proceeds links shared alone ran.store other.store)
    (trace : Entry.plainTrace ran.trace = Entry.plainTrace other.trace)
    (answers : answer = another) :
    group.Simulates links shared alone (Step.enclosing ran answer)
      (Step.enclosing other another) where
  proceeds := proceeds
  trace := by simp only [Step.enclosing, Entry.plainTrace_append, trace, answers]
  failure := by simp only [Step.enclosing, answers]

namespace Matches

variable {environment : Environment}

theorem evaluate (same : group.Matches links shared alone) {evaluation : Evaluation}
    (within : evaluation.Within group) (settings : Settings) {materializer : Materializer}
    (ignoresHandler : materializer.IgnoresHandler) {heard others : List Reference}
    (passed : List.Forall₂ links heard others) {body : Store → Outcome}
    (simulated : ∀ later,
      let entered := evaluation.enter settings materializer heard shared
      let other := evaluation.enter settings materializer others alone
      (group.naming Evaluation.handlerId).Matches later entered.store other.store →
        (group.naming Evaluation.handlerId).Simulates later entered.store other.store
          (body entered.store) (body other.store)) :
    let ran := evaluation.run settings materializer heard shared body
    let other := evaluation.run settings materializer others alone body
    group.Simulates links shared alone (Step.enclosing ran.1 (ran.2.map .evaluation))
      (Step.enclosing other.1 (other.2.map .evaluation)) := by
  have mine : group.adds Evaluation.handlerId := Or.inr ⟨within.evaluates, rfl⟩
  rcases same.enter within settings ignoresHandler passed with
    ⟨contexts, registries, later, linked, begun, advances⟩
  rcases simulated later begun with ⟨⟨last, ended, further⟩, trace, failure⟩
  have left := ended.leave contexts registries within.context within.registry
  have results := ended.result_eq evaluation registries within.registry
    (further.widens _ _ linked) rfl
  refine .enclosing ⟨last, left.1.narrow, ?_⟩ ?_ ?_
  · exact advances.trans ((further.trans left.2).narrow mine)
  · simp only [Evaluation.run, Entry.plainTrace, Entry.plain, trace]
  · simp only [Evaluation.run, Evaluation.conclude, failure, results]

theorem vendorFile (same : group.Matches links shared alone) {context : String}
    (mine : group.contexts context) (settings : Settings) {body : Store → Outcome}
    (simulated : group.Matches links (VendorFile.enter settings context shared).1
        (VendorFile.enter settings context alone).1 →
      group.Simulates links (VendorFile.enter settings context shared).1
        (VendorFile.enter settings context alone).1
        (body (VendorFile.enter settings context shared).1)
        (body (VendorFile.enter settings context alone).1)) :
    let ran := VendorFile.run settings context shared body
    let other := VendorFile.run settings context alone body
    group.Simulates links shared alone (Step.enclosing ran.1 (ran.2.map .vendor))
      (Step.enclosing other.1 (other.2.map .vendor)) := by
  have contexts := same.contexts.next_eq mine
  have holders : (VendorFile.enter settings context shared).2 =
      (VendorFile.enter settings context alone).2 := same.vendors.next_eq mine
  have created := same.addContext mine
    (sameContext_create _ _ settings (some VendorFile.label) none)
  have target : group.contexts (alone.contexts.next context).id := mine
  have marked := created.1.addVendor target
  have begun : group.Follows links shared alone (VendorFile.enter settings context shared).1
      (VendorFile.enter settings context alone).1 := by
    simp only [VendorFile.enter, contexts]
    exact created.trans marked
  rcases simulated begun.1 with ⟨⟨last, ended, further⟩, trace, failure⟩
  have holder : group.contexts (VendorFile.enter settings context alone).2.id := mine
  have marks := ended.marks_eq holder
  refine .enclosing ⟨last, ended, begun.2.trans further⟩ ?_ ?_
  · simp only [VendorFile.run, Entry.plainTrace, Entry.plain, trace]
  · simp only [VendorFile.run, failure, holders, marks]

/-- A step, or a body of steps, that names objects of a group only. -/
theorem run_and_runBody (environment : Environment) :
    (∀ (step : Step) (shared : Store) (group : Group) (links : Links) (alone : Store),
      group.Matches links shared alone → step.Within group →
        group.Simulates links shared alone (step.run environment shared)
          (step.run environment alone)) ∧
    (∀ (body : List Step) (shared : Store) (group : Group) (links : Links) (alone : Store),
      group.Matches links shared alone → Step.BodyWithin body group →
        group.Simulates links shared alone (Step.runBody environment body shared)
          (Step.runBody environment body alone)) := by
  -- the group varies along the induction: in the body of an evaluation one handler more is named
  apply Step.run.mutual_induct environment
    (fun step shared => ∀ (group : Group) (links : Links) (alone : Store),
      group.Matches links shared alone → step.Within group →
        group.Simulates links shared alone (step.run environment shared)
          (step.run environment alone))
    (fun body shared => ∀ (group : Group) (links : Links) (alone : Store),
      group.Matches links shared alone → Step.BodyWithin body group →
        group.Simulates links shared alone (Step.runBody environment body shared)
          (Step.runBody environment body alone))
  case case1 =>
    intro evaluation body shared failure unknown group links alone same within
    have passed := same.forwards within.1.forwards
    rw [unknown] at passed
    generalize missing : evaluation.forwards alone = another at passed
    cases passed with
    | error _ =>
        simp only [Step.run, unknown, missing]
        exact .enclosing same.refl.proceeds rfl rfl
  case case2 =>
    intro evaluation body shared heard known ran result ended ih group links alone same within
    have passed := same.forwards within.1.forwards
    rw [known] at passed
    generalize found : evaluation.forwards alone = another at passed
    cases passed with
    | ok passed =>
        simp only [Step.run, known, found]
        exact same.evaluate within.1 environment.settings
          (ignoresHandler_materializer evaluation.recording) passed
          fun later begun => ih _ _ later _ begun within.2
  case case3 =>
    intro context body shared ran result ended ih group links alone same within
    simp only [Step.run]
    exact same.vendorFile within.1 environment.settings fun begun => ih _ _ links _ begun within.2
  case case4 =>
    intro step shared ih group links alone same within
    rcases ih group links alone same within with ⟨proceeds, trace, _⟩
    simp only [Step.run]
    exact ⟨proceeds, trace, rfl⟩
  case case5 =>
    intro step shared notEvaluate notVendorFile notCatching group links alone same within
    rw [Step.run, Step.run]
    · exact same.perform environment within
    all_goals assumption
  case case6 =>
    intro shared group links alone same _
    exact ⟨same.refl.proceeds, rfl, rfl⟩
  case case7 =>
    intro step rest shared first failure failed ih group links alone same within
    have here := ih group links alone same within.1
    have alsoFailed : (step.run environment alone).failure = some failure :=
      here.failure.symm.trans failed
    simp only [Step.runBody, show (step.run environment shared).failure = some failure from failed,
      alsoFailed]
    exact here
  case case8 =>
    intro step rest shared first succeeded ihFirst ihRest group links alone same within
    have here := ihFirst group links alone same within.1
    have alsoSucceeded : (step.run environment alone).failure = none :=
      here.failure.symm.trans succeeded
    simp only [Step.runBody, show (step.run environment shared).failure = none from succeeded,
      alsoSucceeded]
    have later := here.proceeds.simulates fun later sameLater =>
      ihRest group later _ sameLater within.2
    refine ⟨later.proceeds, ?_, later.failure⟩
    rw [Entry.plainTrace_append, Entry.plainTrace_append, here.trace, later.trace]

end Matches

end ExternalRepos.Group

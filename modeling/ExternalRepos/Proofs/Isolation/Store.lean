import ExternalRepos.Proofs.Isolation.Change

/-!
# Using the objects of a group

A declaration reads its registry and nothing else, so a registry that is the same but for
the address of its handler answers in the same way (`SameRegistry.declare`). A rule call
reaches its registry through a context, and a mark the marks of a vendor file: contexts
of the group lead to objects of the group, so these stay in it. What code does to objects
of a group therefore has the same outcome in both sessions, which then have the same
objects of the group again.
-/

namespace ExternalRepos.Group

variable {group : Group} {links : Links} {shared alone : Store}

/-- The same declaration in a registry with another handler. -/
theorem SameRegistry.declare {recorders : String → Prop} {registry other : Registry}
    (same : SameRegistry recorders links registry other) (values : OrderedMap Value)
    (ruleClass : RuleClass) (location : Location) (version : String) :
    let first := registry.declare values ruleClass location version
    let second := other.declare values ruleClass location version
    SameRegistry recorders links first.registry second.registry ∧
      Option.Rel (SameRequest links) first.request second.request ∧
      first.events = second.events ∧ first.outcome = second.outcome := by
  obtain ⟨handler, rfl⟩ : ∃ handler, other = { registry with handler := handler } :=
    ⟨other.handler, same.equal⟩
  have names : ({ registry with handler := handler } : Registry).newName values =
      registry.newName values := rfl
  rcases named : registry.newName values with failure | name
  · simp only [Registry.declare, names, named]
    exact ⟨same, .none, trivial, trivial⟩
  · have asked : ({ registry with handler := handler } : Registry).request name values ruleClass
        version = { registry.request name values ruleClass version with handler := handler } := rfl
    have replied := same.ignoresHandler (registry.request name values ruleClass version) handler
    simp only [Registry.declare, names, named, asked, replied]
    split
    · exact ⟨same, .some ⟨rfl, same.linked⟩, rfl, rfl⟩
    · exact ⟨⟨rfl, same.linked, same.ignoresHandler, same.recorder⟩, .some ⟨rfl, same.linked⟩,
        rfl, rfl⟩

theorem SameRegistry.recorder_eq {recorders : String → Prop} {registry other : Registry}
    (same : SameRegistry recorders links registry other) : registry.recorder = other.recorder := by
  rw [same.equal]

theorem SameContext.attach {registries contexts : String → Prop} {context : Context}
    (here : SameContext registries contexts context context) {registry : Reference}
    (mine : registries registry.id) :
    SameContext registries contexts (context.attach registry) (context.attach registry) := by
  refine ⟨rfl, ?_, here.vendor⟩
  intro other isAttached
  cases isAttached
  exact mine

/-- A new context leads nowhere. -/
theorem sameContext_create (registries contexts : String → Prop) (settings : Settings)
    (label version : Option String) :
    SameContext registries contexts (Context.create settings label version)
      (Context.create settings label version) where
  equal := rfl
  registry := by
    intro registry attached
    cases attached
  vendor := by
    intro vendor held
    cases held

namespace Matches

/-! ## Declarations -/

theorem note (same : group.Matches links shared alone) {recorder : Option Reference}
    (mine : ∀ reference, recorder = some reference → group.recorders reference.id)
    {request other : Option Request} (requests : Option.Rel (SameRequest links) request other) :
    group.Follows links shared alone (shared.note recorder request)
      (alone.note recorder other) := by
  rcases recorder with _ | reference
  · exact same.refl
  · cases requests with
    | none => exact same.refl
    | some here =>
        apply same.modifyRecorder (mine reference rfl)
        intro noted others before
        exact List.rel_append before (.cons here .nil)

theorem commit (same : group.Matches links shared alone) {reference : Reference}
    (mine : group.registries reference.id) {attempt another : Attempt}
    (registries : SameRegistry group.recorders links attempt.registry another.registry)
    (requests : Option.Rel (SameRequest links) attempt.request another.request)
    (events : attempt.events = another.events) :
    group.Follows links shared alone (shared.commit reference attempt)
      (alone.commit reference another) := by
  have changed := same.modifyRegistry mine fun _ _ _ => registries
  have noted := changed.1.note registries.recorder requests
  have posted := noted.1.post registries.linked attempt.events
  rw [Store.commit, Store.commit, ← registries.recorder_eq, ← events]
  exact (changed.trans noted).trans posted

theorem declare (same : group.Matches links shared alone) (settings : Settings)
    {reference : Reference} (mine : group.registries reference.id) (values : OrderedMap Value)
    (ruleClass : RuleClass) (location : Location) (version : Option String) :
    let first := shared.declare settings reference values ruleClass location version
    let second := alone.declare settings reference values ruleClass location version
    group.Follows links shared alone first.1 second.1 ∧ first.2 = second.2 := by
  rcases same.registries.get?_cases mine with
    ⟨missing, absent⟩ | ⟨registry, other, found, present, here⟩
  · simp only [Store.declare, missing, absent]
    exact ⟨same.refl, trivial⟩
  · rw [Store.declare_of_get? found, Store.declare_of_get? present]
    rcases here.declare values ruleClass location (settings.chooseVersion version) with
      ⟨registries, requests, events, outcomes⟩
    exact ⟨same.commit mine registries requests events, outcomes⟩

/-! ## Contexts -/

theorem context_eq (same : group.Matches links shared alone) {reference : Reference}
    (mine : group.contexts reference.id) :
    shared.contexts.get? reference = alone.contexts.get? reference := by
  rcases same.contexts.get?_cases mine with
    ⟨missing, absent⟩ | ⟨context, other, found, present, here⟩
  · rw [missing, absent]
  · rw [found, present, here.equal]

/-- A context of the group leads to objects of the group. -/
theorem context_leads (same : group.Matches links shared alone) {reference : Reference}
    (mine : group.contexts reference.id) {context : Context}
    (found : alone.contexts.get? reference = some context) :
    SameContext group.registries group.contexts context context := by
  rcases same.contexts.get?_cases mine with
    ⟨_, absent⟩ | ⟨other, another, _, present, here⟩
  · rw [found] at absent
    cases absent
  · rw [found] at present
    cases present
    have equal := here.equal
    subst equal
    exact here

theorem setCaller (same : group.Matches links shared alone) {context : Reference}
    (mine : group.contexts context.id) (caller : Location) :
    group.Follows links shared alone (shared.setCaller context caller)
      (alone.setCaller context caller) :=
  same.modifyContext mine fun _ here => ⟨rfl, here.registry, here.vendor⟩

theorem attachRegistry (same : group.Matches links shared alone) {context registry : Reference}
    (mine : group.contexts context.id) (attached : group.registries registry.id) :
    group.Follows links shared alone (shared.attachRegistry context registry)
      (alone.attachRegistry context registry) := by
  apply same.modifyContext mine
  intro entered here
  exact here.attach attached

theorem detachRegistry (same : group.Matches links shared alone) {context : Reference}
    (mine : group.contexts context.id) :
    group.Follows links shared alone (shared.detachRegistry context)
      (alone.detachRegistry context) := by
  apply same.modifyContext mine
  intro entered here
  refine ⟨rfl, ?_, here.vendor⟩
  intro other isAttached
  cases isAttached

theorem createRepo (same : group.Matches links shared alone) (settings : Settings)
    {context registry : Reference} (mine : group.contexts context.id)
    (target : group.registries registry.id) (values : OrderedMap Value) (ruleClass : RuleClass)
    (location : Option Location) :
    let first := shared.createRepo settings context registry values ruleClass location
    let second := alone.createRepo settings context registry values ruleClass location
    group.Follows links shared alone first.1 second.1 ∧ first.2 = second.2 := by
  rcases present : alone.contexts.get? context with _ | caller
  · have missing := (same.context_eq mine).trans present
    simp only [Store.createRepo, missing, present]
    exact ⟨same.refl, trivial⟩
  · have found := (same.context_eq mine).trans present
    rw [Store.createRepo_of_get? found, Store.createRepo_of_get? present]
    exact same.declare settings target values ruleClass _ _

/-- A rule call stays in the group: the registry that its context holds is in it. -/
theorem call (same : group.Matches links shared alone) (settings : Settings)
    {context : Reference} (mine : group.contexts context.id) (ruleClass : RuleClass)
    (values : OrderedMap Value) (position : Location) :
    let first := shared.call settings context ruleClass values position
    let second := alone.call settings context ruleClass values position
    group.Follows links shared alone first.1 second.1 ∧ first.2 = second.2 := by
  have contexts := same.context_eq mine
  rcases keywords : Store.checkKeywords ruleClass values with failure | _
  · simp only [Store.call, keywords]
    exact ⟨same.refl, trivial⟩
  · rcases present : alone.contexts.get? context with _ | entered
    · simp only [Store.call, keywords, Store.attachedRegistry, contexts, present]
      exact ⟨same.refl, rfl⟩
    · rcases attached : entered.registry with _ | registry
      · simp only [Store.call, keywords, Store.attachedRegistry, contexts, present,
          Option.bind_some, attached]
        exact ⟨same.refl, trivial⟩
      · have target := (same.context_leads mine present).registry registry attached
        have moved := same.setCaller mine position
        have declared := moved.1.declare settings target values ruleClass position
          (some entered.semanticsVersion)
        have restored := declared.1.1.setCaller mine entered.caller
        rw [Store.call_of_attached keywords (contexts.trans present) attached,
          Store.call_of_attached keywords present attached]
        exact ⟨(moved.trans declared.1).trans restored, declared.2⟩

/-! ## Vendor marks -/

theorem marks_eq (same : group.Matches links shared alone) {reference : Reference}
    (mine : group.contexts reference.id) :
    shared.vendors.get? reference = alone.vendors.get? reference := by
  rcases same.vendors.get?_cases mine with
    ⟨missing, absent⟩ | ⟨marks, other, found, present, here⟩
  · rw [missing, absent]
  · rw [found, present, here]

theorem vendor_of_attached (same : group.Matches links shared alone) {context vendor : Reference}
    (mine : group.contexts context.id) {what : String}
    (attached : alone.attachedVendor context what = .ok vendor) : group.contexts vendor.id := by
  unfold Store.attachedVendor at attached
  split at attached
  · rename_i held holds
    cases attached
    rcases Option.bind_eq_some_iff.1 holds with ⟨entered, present, isVendor⟩
    exact (same.context_leads mine present).vendor vendor isVendor
  · cases attached

theorem mark (same : group.Matches links shared alone) {context : Reference}
    (mine : group.contexts context.id) (what : String)
    (add : VendorMarks → RepositoryName → VendorMarks) (given : String) :
    let first := shared.mark context what add given
    let second := alone.mark context what add given
    group.Follows links shared alone first.1 second.1 ∧ first.2 = second.2 := by
  have vendors : shared.attachedVendor context what = alone.attachedVendor context what := by
    rw [Store.attachedVendor, Store.attachedVendor, same.context_eq mine]
  rcases attached : alone.attachedVendor context what with failure | vendor
  · simp only [Store.mark, vendors, attached]
    exact ⟨same.refl, trivial⟩
  · rcases named : VendorMarks.repository given with failure | repository
    · simp only [Store.mark, vendors, attached, named]
      exact ⟨same.refl, trivial⟩
    · have target := same.vendor_of_attached mine attached
      have marked := same.modifyVendor target fun marks => add marks repository
      simp only [Store.mark, vendors, attached, named]
      refine ⟨marked, ?_⟩
      have marks := marked.1.marks_eq target
      simp only at marks
      rw [marks]

theorem addVendor (same : group.Matches links shared alone) {context : Reference}
    (mine : group.contexts context.id) :
    group.Follows links shared alone (shared.addVendor context) (alone.addVendor context) := by
  have keeps : ∀ entered, SameContext group.registries group.contexts entered entered →
      SameContext group.registries group.contexts
        { entered with vendor := some (alone.vendors.next context.id) }
        { entered with vendor := some (alone.vendors.next context.id) } := by
    intro entered here
    refine ⟨rfl, here.registry, ?_⟩
    intro vendor isVendor
    cases isVendor
    exact mine
  have marked := same.addMarks mine .empty
  rw [Store.addVendor, Store.addVendor, same.vendors.next_eq mine]
  exact marked.trans (marked.1.modifyContext mine keeps)

/-! ## Registries -/

theorem sealRegistry (same : group.Matches links shared alone) {reference : Reference}
    (mine : group.registries reference.id) :
    group.Follows links shared alone (shared.sealRegistry reference)
      (alone.sealRegistry reference) := by
  apply same.modifyRegistry mine
  intro registry other here
  obtain ⟨handler, rfl⟩ : ∃ handler, other = { registry with handler := handler } :=
    ⟨other.handler, here.equal⟩
  exact ⟨rfl, here.linked, here.ignoresHandler, here.recorder⟩

theorem addRegistryFor (same : group.Matches links shared alone) {id : String}
    (mine : group.registries id) {handler other : Reference} (linked : links handler other)
    {materializer : Materializer} (ignoresHandler : materializer.IgnoresHandler)
    {recorder : Option String} (recorded : ∀ id, recorder = some id → group.recorders id)
    (repoPrefix : String) (scope : Scope) (directories : Directories) :
    group.Follows links shared alone
      (shared.addRegistry id repoPrefix scope directories handler materializer recorder)
      (alone.addRegistry id repoPrefix scope directories other materializer recorder) := by
  have recorders : shared.nextRecorder recorder = alone.nextRecorder recorder := by
    rcases recorder with _ | noted
    · rfl
    · exact congrArg some (same.recorders.next_eq (recorded noted rfl))
  have leads : ∀ reference, shared.nextRecorder recorder = some reference →
      group.recorders reference.id := by
    intro reference isNext
    rcases Option.map_eq_some_iff.1 isNext with ⟨noted, isRecorder, rfl⟩
    exact recorded noted isRecorder
  have here : SameRegistry group.recorders links
      ⟨repoPrefix, scope, directories, handler, materializer, shared.nextRecorder recorder, ∅,
        false⟩
      ⟨repoPrefix, scope, directories, other, materializer, alone.nextRecorder recorder, ∅,
        false⟩ :=
    ⟨by rw [recorders], linked, ignoresHandler, leads⟩
  have prepared := same.addRecorder recorded
  have created := prepared.1.addRegistry mine here
  rcases recorder with _ | noted
  · exact prepared.trans created
  · exact prepared.trans created

theorem ignoresHandler_materializer (recording : Option Recording) :
    (Recording.materializer recording).IgnoresHandler := by
  intro request handler
  unfold Recording.materializer
  rcases recording.bind Recording.failure with _ | failure
  · rfl
  · rfl

end Matches

end ExternalRepos.Group

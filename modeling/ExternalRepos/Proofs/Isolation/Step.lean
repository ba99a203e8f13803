import ExternalRepos.Proofs.Isolation.Naming

/-!
# Steps of a group

A step that names objects of a group only answers in a session that it shares as it does
in a session of its own, and the sessions have the same objects of the group afterwards
(`Simulates`). Answers are compared without the addresses of handlers in them, which
nobody sees. `Matches.perform` goes through the steps that have no steps inside: each
looks something up, changes the objects that it names, or declares.
-/

namespace ExternalRepos

/-- An answer without the addresses of handlers in it. -/
def Answer.plain : Answer → Answer
  | .events handler => .events { handler with forwards := [] }
  | other => other

namespace Entry

mutual

/-- An entry of a trace without the addresses of handlers in it. -/
def plain : Entry → Entry
  | .began name trace => .began name (plainTrace trace)
  | .done outcome names => .done (outcome.map Answer.plain) names
termination_by structural entry => entry

/-- A trace without the addresses of handlers in it. -/
def plainTrace : List Entry → List Entry
  | [] => []
  | first :: rest => plain first :: plainTrace rest
termination_by structural trace => trace

end

@[simp]
theorem plainTrace_append (first second : List Entry) :
    plainTrace (first ++ second) = plainTrace first ++ plainTrace second := by
  induction first with
  | nil => rfl
  | cons entry rest ih => exact congrArg (plain entry :: ·) ih

end Entry

namespace Group

/-- The same run in both sessions, as far as the group goes. -/
structure Simulates (group : Group) (links : Links) (shared alone : Store) (ran other : Outcome) :
    Prop where
  proceeds : group.Proceeds links shared alone ran.store other.store
  trace : Entry.plainTrace ran.trace = Entry.plainTrace other.trace
  failure : ran.failure = other.failure

variable {group : Group} {links : Links} {shared alone sharedAfter aloneAfter : Store}

namespace Proceeds

/-- What comes later may use the handlers created in between. -/
theorem andThen {sharedLast aloneLast : Store}
    (first : group.Proceeds links shared alone sharedAfter aloneAfter)
    (second : ∀ later, group.Matches later sharedAfter aloneAfter →
      group.Proceeds later sharedAfter aloneAfter sharedLast aloneLast) :
    group.Proceeds links shared alone sharedLast aloneLast := by
  rcases first with ⟨later, same, advances⟩
  rcases second later same with ⟨last, sameLast, further⟩
  exact ⟨last, sameLast, advances.trans further⟩

theorem simulates {ran other : Outcome}
    (first : group.Proceeds links shared alone sharedAfter aloneAfter)
    (second : ∀ later, group.Matches later sharedAfter aloneAfter →
      group.Simulates later sharedAfter aloneAfter ran other) :
    group.Simulates links shared alone ran other := by
  have proceeds := first.andThen fun later same => (second later same).proceeds
  rcases first with ⟨later, same, _⟩
  exact ⟨proceeds, (second later same).trace, (second later same).failure⟩

end Proceeds

theorem Simulates.single (proceeds : group.Proceeds links shared alone sharedAfter aloneAfter)
    {outcome another : Except Error Answer}
    (answers : outcome.map Answer.plain = another.map Answer.plain)
    (names : Option (List String)) :
    group.Simulates links shared alone (.single sharedAfter outcome names)
      (.single aloneAfter another names) where
  proceeds := proceeds
  trace := by
    simp only [Outcome.single, Entry.plainTrace, Entry.plain, answers]
  failure := by
    rcases outcome with failure | answer
    · rcases another with same | _
      · cases answers
        rfl
      · cases answers
    · rcases another with _ | _
      · cases answers
      · rfl

namespace Matches

/-! ## Kinds of steps -/

theorem look (same : group.Matches links shared alone) {outcome another : Except Error Answer}
    (answers : Agree (fun answer shown => answer.plain = shown.plain) outcome another) :
    group.Simulates links shared alone (Step.look shared outcome) (Step.look alone another) :=
  .single same.refl.proceeds (answers.map fun _ _ equal => equal).eq none

/-- Looking at a registry without regard to its handler. -/
theorem lookAtRegistry (same : group.Matches links shared alone) {id : String}
    (mine : group.registries id) {answer : Registry → Answer}
    (ignores : ∀ (registry : Registry) (handler : Reference),
      answer { registry with handler := handler } = answer registry) :
    group.Simulates links shared alone (Step.look shared ((shared.registryNow id).map answer))
      (Step.look alone ((alone.registryNow id).map answer)) := by
  apply same.look
  apply (same.registryNow mine).map
  intro registry other here
  rw [here.shows ignores]

theorem change (same : group.Matches links shared alone) {changed another : Except Error Store}
    (changes : Agree (group.Proceeds links shared alone) changed another) :
    group.Simulates links shared alone (Step.change shared changed fun _ => .nothing)
      (Step.change alone another fun _ => .nothing) := by
  cases changes with
  | error failure => exact .single same.refl.proceeds rfl none
  | ok proceeds => exact .single proceeds rfl none

/-- Changing the newest context under an identifier. -/
theorem changeContext (same : group.Matches links shared alone) {context : String}
    (mine : group.contexts context) {change : Store → Reference → Store}
    (follows : ∀ reference, group.contexts reference.id →
      group.Follows links shared alone (change shared reference) (change alone reference)) :
    group.Simulates links shared alone
      (Step.change shared ((shared.contextOf context).map (change shared)) fun _ => .nothing)
      (Step.change alone ((alone.contextOf context).map (change alone)) fun _ => .nothing) := by
  apply same.change
  rw [same.contextOf_eq mine]
  rcases named : alone.contextOf context with failure | reference
  · exact .error failure
  · exact .ok (follows reference (holds_of_required named mine)).proceeds

theorem declaration (same : group.Matches links shared alone) {registry : String}
    (mine : group.registries registry)
    {attempt another : Except Error (Store × Except Error Answer)}
    (attempts : Agree (fun ended other => group.Proceeds links shared alone ended.1 other.1 ∧
      ended.2 = other.2) attempt another) :
    group.Simulates links shared alone (Step.declaration shared registry attempt)
      (Step.declaration alone registry another) := by
  cases attempts with
  | error failure =>
      simp only [Step.declaration, same.declaredNames_eq mine]
      exact .single same.refl.proceeds rfl _
  | @ok ended other here =>
      rcases here with ⟨⟨later, sameLater, advances⟩, answers⟩
      simp only [Step.declaration, sameLater.declaredNames_eq mine, answers]
      exact .single ⟨later, sameLater, advances⟩ rfl _

theorem createRegistryIn (same : group.Matches links shared alone) {id handler : String}
    (mine : group.registries id) (named : group.handlers handler) {recording : Option Recording}
    (records : group.Records recording) (repoPrefix : String) (scope : Scope)
    (directories : Directories) :
    group.Proceeds links shared alone
      (Step.createRegistryIn shared id repoPrefix scope directories handler recording)
      (Step.createRegistryIn alone id repoPrefix scope directories handler recording) := by
  have ignores := ignoresHandler_materializer recording
  have current := same.handlers.current handler named
  unfold Step.createRegistryIn
  rcases found : shared.handlers.current? handler with _ | reference
  · rcases present : alone.handlers.current? handler with _ | other
    · rcases same.addHandler (Or.inl named) .nil with ⟨sameLater, advances⟩
      have created := sameLater.narrow.addRegistryFor mine (Or.inr ⟨rfl, rfl⟩) ignores records
        repoPrefix scope directories
      simp only [Store.addHandler, Table.current?_add, Option.getD_some]
      exact ⟨_, created.1, advances.trans created.2⟩
    · rw [found, present] at current
      cases current
  · rcases present : alone.handlers.current? handler with _ | other
    · rw [found, present] at current
      cases current
    · rw [found, present] at current
      cases current with
      | some linked =>
          simp only [found, present, Option.getD_some]
          exact (same.addRegistryFor mine linked ignores records repoPrefix scope
            directories).proceeds

theorem markIn (same : group.Matches links shared alone) {context : String}
    (mine : group.contexts context) (what repository : String)
    (add : VendorMarks → RepositoryName → VendorMarks) :
    group.Simulates links shared alone (Step.markIn shared context what repository add)
      (Step.markIn alone context what repository add) := by
  unfold Step.markIn
  rw [same.contextOf_eq mine]
  rcases named : alone.contextOf context with failure | reference
  · exact .single same.refl.proceeds rfl none
  · have target : group.contexts reference.id := holds_of_required named mine
    rcases same.mark target what add repository with ⟨marked, marks⟩
    simp only [marks]
    exact .single marked.proceeds rfl none

end Matches

end Group

end ExternalRepos

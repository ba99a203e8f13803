import ExternalRepos.Proofs.Except
import ExternalRepos.Proofs.Isolation.Store
import ExternalRepos.Proofs.OrderedMap
import ExternalRepos.Session.Step

/-!
# Naming the objects of a group

Steps name objects by identifiers, and terms name the registries whose stored values they
reuse. `Step.Within` says that a step names objects of a group only, in the steps inside
it as well; there an evaluation lets its own handler be named. What an identifier of the
group leads to is the same in both sessions, so the values of terms are the same.
-/

namespace ExternalRepos

namespace Term

mutual

/-- The term reuses stored values of these registries only. -/
def Within (registries : String → Prop) : Term → Prop
  | .literal _ => True
  | .stored registry _ _ => registries registry
  | .list items => ItemsWithin registries items
  | .tuple items => ItemsWithin registries items
  | .dict entries => EntriesWithin registries entries
  | .map entries => EntriesWithin registries entries
termination_by structural term => term

/-- The terms reuse stored values of these registries only. -/
def ItemsWithin (registries : String → Prop) : List Term → Prop
  | [] => True
  | first :: rest => Within registries first ∧ ItemsWithin registries rest
termination_by structural terms => terms

/-- The entries reuse stored values of these registries only. -/
def EntriesWithin (registries : String → Prop) : List (Value × Term) → Prop
  | [] => True
  | (_, first) :: rest => Within registries first ∧ EntriesWithin registries rest
termination_by structural entries => entries

end

section

variable {ε : Type} {registries : String → Prop}
  {stored others : String → String → String → Except ε Value}

mutual

/-- What a term does not reuse does not matter to its value. -/
theorem resolve_congr (same : ∀ registry repository key, registries registry →
      stored registry repository key = others registry repository key) :
    ∀ term : Term, term.Within registries → term.resolve stored = term.resolve others
  | .literal _, _ => rfl
  | .stored registry repository key, within => same registry repository key within
  | .list items, within => by rw [resolve, resolve, resolveItems_congr same items within]
  | .tuple items, within => by rw [resolve, resolve, resolveItems_congr same items within]
  | .dict entries, within => by rw [resolve, resolve, resolveEntries_congr same entries within]
  | .map entries, within => by rw [resolve, resolve, resolveEntries_congr same entries within]
termination_by structural term => term

theorem resolveItems_congr (same : ∀ registry repository key, registries registry →
      stored registry repository key = others registry repository key) :
    ∀ terms : List Term, ItemsWithin registries terms →
      resolveItems stored terms = resolveItems others terms
  | [], _ => rfl
  | first :: rest, within => by
      rw [resolveItems, resolveItems, resolve_congr same first within.1,
        resolveItems_congr same rest within.2]
termination_by structural terms => terms

theorem resolveEntries_congr (same : ∀ registry repository key, registries registry →
      stored registry repository key = others registry repository key) :
    ∀ entries : List (Value × Term), EntriesWithin registries entries →
      resolveEntries stored entries = resolveEntries others entries
  | [], _ => rfl
  | (_, first) :: rest, within => by
      rw [resolveEntries, resolveEntries, resolve_congr same first within.1,
        resolveEntries_congr same rest within.2]
termination_by structural entries => entries

end

end

end Term

namespace Group

/-- The arguments reuse stored values of the group only. -/
def Reuses (group : Group) (arguments : Arguments) : Prop :=
  ∀ argument ∈ arguments, argument.2.Within group.registries

/-- The requests of a recording materializer are noted in the group. -/
def Records (group : Group) (recording : Option Recording) : Prop :=
  ∀ id, recording.map Recording.recorder = some id → group.recorders id

/-- Events are passed on in the group, if at all. -/
def Forwards (group : Group) (forward : Option String) : Prop :=
  ∀ id, forward = some id → group.handlers id

end Group

/-- The handler that a delegate names. -/
def Delegate.handler? : Delegate → Option String
  | .handler id => some id
  | _ => Option.none

/-- The evaluation creates and uses objects of the group only. -/
structure Evaluation.Within (evaluation : Evaluation) (group : Group) : Prop where
  evaluates : group.evaluates
  context : group.contexts evaluation.context
  registry : group.registries evaluation.registry
  records : group.Records evaluation.recording
  forwards : group.Forwards evaluation.forward

namespace Step

mutual

/-- The step names objects of the group only, and so do the steps inside it. -/
def Within : Step → Group → Prop
  | .createRegistry id _ _ _ handler recording, group =>
      group.registries id ∧ group.handlers handler ∧ group.Records recording
  | .declare registry _ arguments _ _, group =>
      group.registries registry ∧ group.Reuses arguments
  | .createRepo registry context _ arguments _, group =>
      group.registries registry ∧ group.contexts context ∧ group.Reuses arguments
  | .call registry context _ arguments _, group =>
      group.registries registry ∧ group.contexts context ∧ group.Reuses arguments
  | .extract registry, group | .toValues registry, group | .locationOf registry _, group
  | .contains registry _, group | .size registry, group | .describe registry, group
  | .sealRegistry registry, group | .isSealed registry, group => group.registries registry
  | .requests recorder, group => group.recorders recorder
  | .createContext context _ _, group | .contextState context, group | .setCaller context _, group
  | .detach context, group | .attached context, group | .attachedOrFail context _, group
  | .createVendor context, group | .ignore context _, group | .pin context _, group =>
      group.contexts context
  | .attach context registry, group => group.contexts context ∧ group.registries registry
  | .createHandler id delegate, group => group.handlers id ∧ group.Forwards delegate.handler?
  | .post handler _ _ _, group | .events handler, group | .clearEvents handler, group =>
      group.handlers handler
  | .evaluate evaluation body, group =>
      evaluation.Within group ∧ BodyWithin body (group.naming Evaluation.handlerId)
  | .raise _, _ => True
  | .vendorFile context body, group => group.contexts context ∧ BodyWithin body group
  | .catching step, group => Within step group
termination_by structural step => step

/-- The steps of a body name objects of the group only. -/
def BodyWithin : List Step → Group → Prop
  | [], _ => True
  | step :: rest, group => Within step group ∧ BodyWithin rest group
termination_by structural steps => steps

end

end Step

/-- The newest object under an identifier has that identifier. -/
theorem holds_of_required {α : Type} {table : Table α} {id : String} {reference : Reference}
    (found : required (table.current? id) id = .ok reference) {group : String → Prop}
    (mine : group id) : group reference.id := by
  rcases present : table.current? id with _ | current
  · rw [present] at found
    cases found
  · rw [present] at found
    cases found
    rw [Table.id_of_current? present]
    exact mine

namespace Group

variable {group : Group} {links : Links} {shared alone : Store}

/-- What does not show the handler of a registry is the same in both sessions. -/
theorem SameRegistry.shows {α : Type} {recorders : String → Prop} {registry other : Registry}
    (same : SameRegistry recorders links registry other) {answer : Registry → α}
    (ignores : ∀ (registry : Registry) (handler : Reference),
      answer { registry with handler := handler } = answer registry) :
    answer registry = answer other := by
  rw [same.equal]
  exact (ignores registry other.handler).symm

namespace Matches

theorem registryOf_eq (same : group.Matches links shared alone) {id : String}
    (mine : group.registries id) : shared.registryOf id = alone.registryOf id := by
  rw [Store.registryOf, Store.registryOf, same.registries.current?_eq mine]

theorem contextOf_eq (same : group.Matches links shared alone) {id : String}
    (mine : group.contexts id) : shared.contextOf id = alone.contextOf id := by
  rw [Store.contextOf, Store.contextOf, same.contexts.current?_eq mine]

theorem handlerOf (same : group.Matches links shared alone) {id : String}
    (mine : group.handlers id) : Agree links (shared.handlerOf id) (alone.handlerOf id) := by
  have current := same.handlers.current id mine
  rw [Store.handlerOf, Store.handlerOf]
  generalize shared.handlers.current? id = found at current ⊢
  generalize alone.handlers.current? id = another at current ⊢
  cases current with
  | none => exact .error _
  | some linked => exact .ok linked

theorem requiredRegistry (same : group.Matches links shared alone) {reference : Reference}
    (mine : group.registries reference.id) (id : String) :
    Agree (SameRegistry group.recorders links) (required (shared.registries.get? reference) id)
      (required (alone.registries.get? reference) id) := by
  rcases same.registries.get?_cases mine with
    ⟨missing, absent⟩ | ⟨registry, other, found, present, here⟩
  · rw [missing, absent]
    exact .error _
  · rw [found, present]
    exact .ok here

theorem registryNow (same : group.Matches links shared alone) {id : String}
    (mine : group.registries id) :
    Agree (SameRegistry group.recorders links) (shared.registryNow id) (alone.registryNow id) := by
  rw [Store.registryNow, Store.registryNow, same.registryOf_eq mine]
  rcases named : alone.registryOf id with failure | reference
  · exact .error failure
  · exact same.requiredRegistry (holds_of_required named mine) id

theorem contextNow (same : group.Matches links shared alone) {id : String}
    (mine : group.contexts id) :
    Agree (SameContext group.registries group.contexts) (shared.contextNow id)
      (alone.contextNow id) := by
  rw [Store.contextNow, Store.contextNow, same.contextOf_eq mine]
  rcases named : alone.contextOf id with failure | reference
  · exact .error failure
  · have target : group.contexts reference.id := holds_of_required named mine
    show Agree _ (required (shared.contexts.get? reference) id)
      (required (alone.contexts.get? reference) id)
    rcases same.contexts.get?_cases target with
      ⟨missing, absent⟩ | ⟨context, other, found, present, here⟩
    · rw [missing, absent]
      exact .error _
    · rw [found, present]
      exact .ok here

theorem handlerNow (same : group.Matches links shared alone) {id : String}
    (mine : group.handlers id) :
    Agree (SameHandler links) (shared.handlerNow id) (alone.handlerNow id) := by
  apply (same.handlerOf mine).bind
  intro reference other linked
  rcases same.handlers.found linked with ⟨handler, another, found, present, here⟩
  rw [found, present]
  exact .ok here

theorem storedAttribute_eq (same : group.Matches links shared alone) (registry repository : String)
    (key : String) (mine : group.registries registry) :
    shared.storedAttribute registry repository key =
      alone.storedAttribute registry repository key := by
  apply Agree.eq
  apply (same.registryNow mine).bind
  intro log other here
  have extracted : log.extract = other.extract := here.shows fun _ _ => rfl
  rw [extracted]
  exact .refl _

theorem argumentValues_eq (same : group.Matches links shared alone) {arguments : Arguments}
    (reuses : group.Reuses arguments) :
    shared.argumentValues arguments = alone.argumentValues arguments := by
  apply OrderedMap.traverse_congr
  intro key term bound
  apply Term.resolve_congr same.storedAttribute_eq
  exact reuses _ (OrderedMap.mem_of_get?_ofList bound)

theorem declaredNames_eq (same : group.Matches links shared alone) {id : String}
    (mine : group.registries id) : shared.declaredNames id = alone.declaredNames id := by
  have here := same.registryNow mine
  rw [Store.declaredNames, Store.declaredNames]
  generalize shared.registryNow id = found at here ⊢
  generalize alone.registryNow id = another at here ⊢
  cases here with
  | error failure => rfl
  | ok here => exact congrArg some (here.shows fun _ _ => rfl)

end Matches

end Group

end ExternalRepos

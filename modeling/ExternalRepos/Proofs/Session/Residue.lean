import ExternalRepos.Proofs.Except
import ExternalRepos.Proofs.Session.Alike

/-!
# Failures without residue

An operation that fails leaves a store behind that is alike to the one it found:
a declaration changes its registry last, after everything that can fail, and a
rule call puts back the position that its context told before. Only events that
were posted and requests that were noted on the way stay.

Since operations do not look at notes, it makes no difference to a run whether
operations that fail in it are performed at all. `Pruned` relates a run to what is
left when some of them are left out.
-/

namespace ExternalRepos

namespace Table

variable {α : Type}

theorem modify_modify (table : Table α) (reference : Reference) (first second : α → α) :
    (table.modify reference first).modify reference second =
      table.modify reference (second ∘ first) := by
  rcases bound : table.byId.get? reference.id with _ | objects
  · simp only [modify, bound]
  · have inserted : ∀ changed : List α,
        (table.byId.insert reference.id changed).get? reference.id = some changed := by
      intro changed
      rw [OrderedMap.get?_insert, if_pos rfl]
    simp only [modify, bound, inserted, OrderedMap.insert_insert, List.modify_modify_eq]

end Table

namespace Store

variable {settings : Settings} {store : Store}

/-- A context tells its position again after a call from another one. -/
theorem setCaller_setCaller {context : Reference} {entered : Context}
    (present : store.contexts.get? context = some entered) (position : Location) :
    (store.setCaller context position).setCaller context entered.caller = store := by
  have restored : (store.contexts.modify context fun now => now.calledFrom position).modify context
      (fun now => now.calledFrom entered.caller) = store.contexts := by
    rw [Table.modify_modify]
    exact Table.modify_of_get? present rfl
  simp only [setCaller, restored]

/-- What a declaration does and which position a context tells are of no concern to each other. -/
theorem commit_setCaller (store : Store) (context registry : Reference) (position : Location)
    (attempt : Attempt) :
    (store.setCaller context position).commit registry attempt =
      (store.commit registry attempt).setCaller context position := by
  unfold commit note
  split <;> rfl

theorem declare_setCaller (store : Store) (context registry : Reference)
    (values : OrderedMap Value) (ruleClass : RuleClass) (location position : Location)
    (version : Option String) :
    (store.setCaller context position).declare settings registry values ruleClass location version =
      ((store.declare settings registry values ruleClass location version).1.setCaller context
          position,
        (store.declare settings registry values ruleClass location version).2) := by
  rcases present : store.registries.get? registry with _ | target
  · simp only [declare, registries_setCaller, present]
  · have moved :
        (store.setCaller context position).registries.get? registry = some target := present
    rw [declare_of_get? present, declare_of_get? moved, commit_setCaller]

/-- A declaration is not affected by the position that a context tells while it is made. -/
theorem declare_between_setCaller {context : Reference} {entered : Context}
    (present : store.contexts.get? context = some entered) (registry : Reference)
    (values : OrderedMap Value) (ruleClass : RuleClass) (position : Location)
    (version : Option String) :
    (((store.setCaller context position).declare settings registry values ruleClass position
        version).1.setCaller context entered.caller,
      ((store.setCaller context position).declare settings registry values ruleClass position
        version).2) =
      store.declare settings registry values ruleClass position version := by
  have unchanged : (store.declare settings registry values ruleClass position
      version).1.contexts.get? context = some entered := by
    rw [contexts_declare, present]
  rw [declare_setCaller, setCaller_setCaller unchanged]

/-- A rule call is refused, or it is a direct declaration in the registry of its context. -/
theorem call_eq_declare_or (store : Store) (settings : Settings) (context : Reference)
    (ruleClass : RuleClass) (values : OrderedMap Value) (position : Location) :
    (∃ failure, store.call settings context ruleClass values position = (store, .error failure)) ∨
    ∃ registry entered, store.contexts.get? context = some entered ∧
      entered.registry = some registry ∧
      store.call settings context ruleClass values position =
        store.declare settings registry values ruleClass position
          (some entered.semanticsVersion) := by
  rcases store.call_cases settings context ruleClass values position with
    refused | ⟨registry, entered, present, attached, called⟩
  · exact Or.inl refused
  · exact Or.inr ⟨registry, entered, present, attached,
      called.trans (declare_between_setCaller present registry values ruleClass position _)⟩

/-- A rule call is a direct declaration from its position in the registry of its context. -/
theorem call_eq_declare {context registry : Reference} {entered : Context} {ruleClass : RuleClass}
    {values : OrderedMap Value} (keywords : checkKeywords ruleClass values = .ok ())
    (present : store.contexts.get? context = some entered)
    (attached : entered.registry = some registry) (position : Location) :
    store.call settings context ruleClass values position =
      store.declare settings registry values ruleClass position (some entered.semanticsVersion) :=
  (call_of_attached keywords present attached position).trans
    (declare_between_setCaller present registry values ruleClass position _)

theorem alike_of_declare_error {registry : Reference} {values : OrderedMap Value}
    {ruleClass : RuleClass} {location : Location} {version : Option String} {failure : Error}
    (failed : (store.declare settings registry values ruleClass location version).2 =
      .error failure) :
    Alike (store.declare settings registry values ruleClass location version).1 store := by
  rcases present : store.registries.get? registry with _ | target
  · simp only [declare, present]
    exact .refl store
  · rw [declare_of_get? present] at failed ⊢
    rcases target.declare_cases values ruleClass location (settings.chooseVersion version) with
      ⟨_, _, unchanged⟩ | ⟨_, specification, _, succeeded, _⟩
    · have committed := Alike.commit store registry
        (target.declare values ruleClass location (settings.chooseVersion version))
      rw [unchanged, Table.modify_of_get? present rfl] at committed
      exact committed
    · rw [succeeded] at failed
      cases failed

theorem alike_of_call_error {context : Reference} {ruleClass : RuleClass}
    {values : OrderedMap Value} {position : Location} {failure : Error}
    (failed : (store.call settings context ruleClass values position).2 = .error failure) :
    Alike (store.call settings context ruleClass values position).1 store := by
  rcases store.call_eq_declare_or settings context ruleClass values position with
    ⟨_, refused⟩ | ⟨registry, entered, _, _, called⟩
  · rw [refused]
    exact .refl store
  · rw [called] at failed ⊢
    exact alike_of_declare_error failed

theorem alike_of_mark_error {context : Reference} {what repository : String}
    {add : VendorMarks → RepositoryName → VendorMarks} {failure : Error}
    (failed : (store.mark context what add repository).2 = .error failure) :
    Alike (store.mark context what add repository).1 store := by
  rcases attached : store.attachedVendor context what with _ | vendor
  · simp only [mark, attached]
    exact .refl store
  · rcases named : VendorMarks.repository repository with _ | marked
    · simp only [mark, attached, named]
      exact .refl store
    · simp only [mark, attached, named] at failed
      cases failed

namespace Operation

/-- An operation that fails leaves nothing behind but notes. -/
theorem alike_of_perform_error {operation : Operation} {failure : Error}
    (failed : (operation.perform settings store).2 = .error failure) :
    Alike (operation.perform settings store).1 store := by
  cases operation with
  | declare => exact alike_of_declare_error (map_eq_error_iff.1 failed)
  | createRepo context registry values ruleClass location =>
      rcases present : store.contexts.get? context with _ | caller
      · simp only [perform, Store.createRepo, present]
        exact .refl store
      · simp only [perform, createRepo_of_get? present] at failed ⊢
        exact alike_of_declare_error (map_eq_error_iff.1 failed)
  | call => exact alike_of_call_error (map_eq_error_iff.1 failed)
  | mark => exact alike_of_mark_error (map_eq_error_iff.1 failed)
  | extract | locationOf | inspectRegistry | inspectContext | inspectHandler => exact .refl store
  | inspectRecorder | sealRegistry | createRegistry | createContext | setCaller | attach | detach
  | createHandler | post | clearEvents | createVendor => cases failed

/-- The operations of a run, each with its outcome. -/
def history (settings : Settings) : List Operation → Store → List (Operation × Except Error Reply)
  | [], _ => []
  | operation :: rest, store =>
      (operation, (operation.perform settings store).2) ::
        history settings rest (operation.perform settings store).1

/-- What is left of a run when some of the operations that fail in it are left out. -/
inductive Pruned : List (Operation × Except Error Reply) → List (Operation × Except Error Reply) →
    Prop
  | nil : Pruned [] []
  | keep (entry : Operation × Except Error Reply)
      {ran left : List (Operation × Except Error Reply)} (rest : Pruned ran left) :
      Pruned (entry :: ran) (entry :: left)
  | drop (operation : Operation) (failure : Error)
      {ran left : List (Operation × Except Error Reply)} (rest : Pruned ran left) :
      Pruned ((operation, .error failure) :: ran) left

/-- What operations answered, without the notes in it. -/
def outcomes (ran : List (Operation × Except Error Reply)) : List (Except Error Reply) :=
  ran.map fun entry => entry.2.map Reply.withoutNotes

/-- A pruned run goes on as it did, from every store alike to the one that the run began in. -/
theorem Pruned.rerun {operations : List Operation} {left : List (Operation × Except Error Reply)}
    (pruned : Pruned (history settings operations store) left) {other : Store}
    (alike : Alike store other) :
    outcomes (history settings (left.map Prod.fst) other) = outcomes left ∧
      Alike (runAll settings operations store) (runAll settings (left.map Prod.fst) other) := by
  -- the rerun has a store of its own, so what the induction carries is that the two are alike
  induction operations generalizing store other left with
  | nil =>
      cases pruned
      exact ⟨rfl, alike⟩
  | cons operation rest ih =>
      rcases same : operation.perform settings store with ⟨after, outcome⟩
      simp only [history, same] at pruned
      simp only [runAll, same]
      cases pruned with
      | keep _ further =>
          rcases alike.perform settings operation with ⟨stillAlike, answered⟩
          rw [same] at stillAlike answered
          rcases ih further stillAlike with ⟨sameOutcomes, sameEnd⟩
          refine ⟨?_, sameEnd⟩
          simp only [outcomes, List.map_cons, history]
          simp only [outcomes] at sameOutcomes
          rw [sameOutcomes, answered]
      | drop _ failure further =>
          have unchanged : Alike after store := by
            have failed := alike_of_perform_error (congrArg Prod.snd same)
            rwa [same] at failed
          exact ih further (unchanged.trans alike)

/--
Operations that fail leave no residue. The registries, contexts and vendor marks
are what they were, whatever went wrong; and if failing operations are left out of
a run, each of the others has the same outcome, with the same error, and the run
ends with the same registries, contexts and vendor marks. All that can differ are
the events of handlers and the requests of recorders.
-/
theorem no_residue (settings : Settings) (store : Store) :
    (∀ (operation : Operation) (failure : Error),
      (operation.perform settings store).2 = .error failure →
        Alike (operation.perform settings store).1 store) ∧
    ∀ operations left, Pruned (history settings operations store) left →
      outcomes (history settings (left.map Prod.fst) store) = outcomes left ∧
        Alike (runAll settings operations store) (runAll settings (left.map Prod.fst) store) := by
  constructor
  · intro operation failure failed
    exact alike_of_perform_error failed
  · intro operations left pruned
    exact pruned.rerun (.refl store)

/-- A name that is declared twice, and a declaration after the seal. -/
theorem no_residue_of_conflict :
    let ruleClass : RuleClass := ⟨"archive", default, [], "", by decide⟩
    let reference := Store.empty.registries.next "r"
    let create : Operation := .createRegistry "r" "ext+" default default default .schema none
    let declare : Operation :=
      .declare reference (.ofList [("name", .text "a")]) ruleClass .builtin none
    let close : Operation := .sealRegistry reference
    let operations := [create, declare, declare, close, declare]
    let left := history .default [create, declare, close] .empty
    Pruned (history .default operations .empty) left ∧
      Alike (runAll .default operations .empty)
        (runAll .default [create, declare, close] .empty) := by
  intro ruleClass reference create declare close operations left
  have pruned : Pruned (history .default operations .empty) left :=
    .keep _ (.keep _ (.drop _ _ (.keep _ (.drop _ _ .nil))))
  exact ⟨pruned, ((no_residue .default .empty).2 operations left pruned).2⟩

end Operation

end Store

end ExternalRepos

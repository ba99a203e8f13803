import ExternalRepos.Proofs.Session.Told

/-!
# Linked handlers

A handler passes events on to handlers that were there before it, and never to itself.
No operation changes whom an existing handler passes events on to, so this stays true
as long as new handlers are put before existing ones (`Linked.perform`), which is how
sessions create them.
-/

namespace ExternalRepos

namespace Table

theorem exists_get?_of_current? {α : Type} {table : Table α} {id : String} {reference : Reference}
    (current : table.current? id = some reference) :
    ∃ object, table.get? reference = some object := by
  unfold current? at current
  split at current
  · cases current
  · rename_i generation size
    cases current
    have inside : generation < (table.objects id).length := by omega
    exact ⟨_, List.getElem?_eq_getElem inside⟩

end Table

namespace Store

/-- Handlers pass events on to other handlers, all of which are there. -/
def Linked (store : Store) : Prop :=
  ∀ reference handler, store.handlers.get? reference = some handler →
    ∀ listener ∈ handler.forwards, listener ≠ reference ∧
      ∃ other, store.handlers.get? listener = some other

/-- Every one of some references is one of a handler. -/
def HasHandlers (store : Store) (references : List Reference) : Prop :=
  ∀ reference ∈ references, ∃ handler, store.handlers.get? reference = some handler

/-- A handler that an operation creates passes events on to existing ones. -/
def Operation.Joins (store : Store) : Operation → Prop
  | .createHandler _ forwards => store.HasHandlers forwards
  | _ => True

variable {settings : Settings} {store : Store}

theorem linked_empty : Store.empty.Linked := by
  intro reference handler present
  cases present

theorem Linked.hasHandlers_listeners (linked : store.Linked) {reference : Reference}
    {handler : Handler} (present : store.handlers.get? reference = some handler) :
    store.HasHandlers (store.listeners reference) := by
  intro listener listenerMem
  rw [listeners, present, Option.map_some, Option.getD_some, List.mem_cons] at listenerMem
  rcases listenerMem with rfl | forwarded
  · exact ⟨handler, present⟩
  · exact (linked reference handler present listener forwarded).2

theorem exists_handler_of_handlerOf {id : String} {reference : Reference}
    (found : store.handlerOf id = .ok reference) :
    ∃ handler, store.handlers.get? reference = some handler := by
  apply Table.exists_get?_of_current?
  rcases current : store.handlers.current? id with _ | newest
  · simp [handlerOf, required, current] at found
  · simp only [handlerOf, required, current, Except.ok.injEq] at found
    exact congrArg some found

theorem HasHandlers.perform {references : List Reference} (has : store.HasHandlers references)
    (settings : Settings) (operation : Operation) :
    (operation.perform settings store).1.HasHandlers references := by
  intro reference referenceMem
  rcases has reference referenceMem with ⟨handler, present⟩
  rcases Operation.exists_handler_perform settings present operation with ⟨later, laterPresent, _⟩
  exact ⟨later, laterPresent⟩

/-- A handler that is there only after an operation is the one that the operation creates. -/
theorem Operation.exists_createHandler_of_new {operation : Operation} {reference : Reference}
    {later : Handler} (missing : store.handlers.get? reference = none)
    (appeared : (operation.perform settings store).1.handlers.get? reference = some later) :
    ∃ id forwards, operation = .createHandler id forwards ∧ reference = store.handlers.next id ∧
      later = .create forwards := by
  by_cases creates : ∃ id forwards, operation = .createHandler id forwards
  · rcases creates with ⟨id, forwards, rfl⟩
    have added : (store.handlers.add id (.create forwards)).get? reference = some later := appeared
    by_cases here : reference = store.handlers.next id
    · subst here
      rw [Table.get?_add_next] at added
      exact ⟨id, forwards, rfl, rfl, (Option.some.inj added).symm⟩
    · rw [Table.get?_add_of_ne _ _ here, missing] at added
      cases added
  · by_cases clears : ∃ target, operation = .clearEvents target
    · rcases clears with ⟨target, rfl⟩
      have cleared : (store.handlers.modify target Handler.clear).get? reference = some later :=
        appeared
      by_cases here : reference = target
      · rw [here, Table.get?_modify_self, ← here, missing] at cleared
        cases cleared
      · rw [Table.get?_modify_of_ne _ _ here, missing] at cleared
        cases cleared
    · rw [Operation.get?_handlers_perform settings store (fun target same => clears ⟨target, same⟩)
        (fun id forwards same => creates ⟨id, forwards, same⟩), missing] at appeared
      cases appeared

theorem Linked.perform (linked : store.Linked) (settings : Settings) {operation : Operation}
    (joins : operation.Joins store) : (operation.perform settings store).1.Linked := by
  intro reference later laterPresent listener listenerMem
  rcases present : store.handlers.get? reference with _ | handler
  · rcases Operation.exists_createHandler_of_new present laterPresent with
      ⟨id, forwards, rfl, rfl, rfl⟩
    rcases joins listener listenerMem with ⟨other, found⟩
    exact ⟨Table.ne_next_of_get? found id,
      HasHandlers.perform joins settings _ listener listenerMem⟩
  · rcases Operation.exists_handler_perform settings present operation with
      ⟨same, samePresent, forwards, _⟩
    rw [samePresent] at laterPresent
    cases laterPresent
    rw [forwards] at listenerMem
    rcases linked reference handler present listener listenerMem with ⟨different, other, found⟩
    rcases Operation.exists_handler_perform settings found operation with ⟨later, laterFound, _⟩
    exact ⟨different, later, laterFound⟩

end Store

end ExternalRepos

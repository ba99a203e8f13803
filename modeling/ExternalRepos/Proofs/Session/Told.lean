import ExternalRepos.Proofs.Session.Attempt
import ExternalRepos.Proofs.Session.Reordered

/-!
# What handlers are told

Events reach a handler in two ways: code posts them, or a declaration does. Either way
they go to all listeners of the handler that they are posted to, so an operation tells a
handler the same events as often as it listens there (`Operation.told`). Nothing else is
ever added to a handler, whom it passes events on to never changes, and only one
operation takes events away (`exists_handler_perform`). What a handler holds after a run
is therefore what it held and what it was told in between (`exists_handler_runAll`).

The declarations that a run attempts in one registry are its `attempts` there, those that
fail included. A handler that hears the registry once goes on doing so, and is told the
events of all these attempts (`HearsOnce.flatMap_sublist_toldBy`). If nobody else tells it
anything, that is all it is told (`HearsOnce.toldBy_eq_flatMap`).
-/

namespace ExternalRepos

namespace Registry

/-- A declaration does not change where a registry posts its events. -/
@[simp]
theorem handler_declare (registry : Registry) (values : OrderedMap Value) (ruleClass : RuleClass)
    (location : Location) (version : String) :
    (registry.declare values ruleClass location version).registry.handler = registry.handler := by
  have setup := (registry.extends_declare values ruleClass location version).setup
  have same := congrArg Registry.handler setup
  exact same

end Registry

namespace Store

variable {settings : Settings} {store : Store} {handler reference : Reference} {held : Handler}

@[simp]
theorem handlers_addRecorder (store : Store) (recorder : Option String) :
    (store.addRecorder recorder).handlers = store.handlers := by
  unfold addRecorder
  split <;> rfl

/-- What a registry posts gets to a handler once. -/
def HearsOnce (store : Store) (reference handler : Reference) : Prop :=
  ∃ registry listened, store.registries.get? reference = some registry ∧
    store.handlers.get? registry.handler = some listened ∧
    store.timesHeard registry.handler handler = 1

/-! ## What operations post and tell -/

namespace Operation

/-- The events that an operation posts, and the handler that it posts them to. -/
def posted? (settings : Settings) (store : Store) : Operation → Option (Reference × List Event)
  | .post target events => some (target, events)
  | operation => (operation.attempt? settings store).map fun attempted =>
      (attempted.2.registry.handler, attempted.2.events)

/-- The events that an operation adds to a handler. -/
def told (settings : Settings) (handler : Reference) (store : Store) (operation : Operation) :
    List Event :=
  match operation.posted? settings store with
  | some (target, events) => (List.replicate (store.timesHeard target handler) events).flatten
  | none => []

/-- The events that operations add to a handler, one after the other. -/
def toldBy (settings : Settings) (handler : Reference) : List Operation → Store → List Event
  | [], _ => []
  | operation :: rest, store =>
      operation.told settings handler store ++
        toldBy settings handler rest (operation.perform settings store).1

/-- While operations run, only declarations in one registry tell a handler anything. -/
def OnlyDeclares (settings : Settings) (reference handler : Reference) :
    List Operation → Store → Prop
  | [], _ => True
  | operation :: rest, store =>
      (operation.attemptIn? settings reference store = none →
        operation.told settings handler store = []) ∧
      OnlyDeclares settings reference handler rest (operation.perform settings store).1

instance decidableOnlyDeclares (settings : Settings) (reference handler : Reference) :
    ∀ (operations : List Operation) (store : Store),
      Decidable (OnlyDeclares settings reference handler operations store)
  | [], _ => inferInstanceAs (Decidable True)
  | operation :: rest, store =>
      have := decidableOnlyDeclares settings reference handler rest
        (operation.perform settings store).1
      inferInstanceAs (Decidable (_ ∧ _))

/-! ## One operation -/

theorem posted?_of_ruleClass? {operation : Operation} {ruleClass : RuleClass}
    (classed : operation.ruleClass? = some ruleClass) :
    operation.posted? settings store = (operation.attempt? settings store).map fun attempted =>
      (attempted.2.registry.handler, attempted.2.events) := by
  cases operation with
  | declare | createRepo | call => rfl
  | extract | locationOf | inspectRegistry | sealRegistry | createRegistry | inspectContext
  | createContext | setCaller | attach | detach | inspectHandler | createHandler | post
  | clearEvents | inspectRecorder | createVendor | mark => cases classed

/-- What a declaration does to a handler is to tell it something, or nothing. -/
theorem get?_handlers_perform_of_ruleClass? {operation : Operation} {ruleClass : RuleClass}
    (classed : operation.ruleClass? = some ruleClass) (handler : Reference) :
    (operation.perform settings store).1.handlers.get? handler =
      (store.handlers.get? handler).map
        (Handler.append (operation.told settings handler store)) := by
  rw [told, posted?_of_ruleClass? classed]
  rcases attempted : operation.attempt? settings store with _ | ⟨reference, attempt⟩
  · rw [perform_of_attempt?_eq_none classed attempted]
    simp [Handler.append_nil]
  · rw [perform_of_attempt? attempted]
    exact get?_handlers_commit store reference handler attempt

/-- Handlers change by what they are told, but for those that are cleared or created. -/
theorem get?_handlers_perform (settings : Settings) (store : Store) {operation : Operation}
    (clearsNone : ∀ target, operation ≠ .clearEvents target)
    (createsNone : ∀ id forwards, operation ≠ .createHandler id forwards) (handler : Reference) :
    (operation.perform settings store).1.handlers.get? handler =
      (store.handlers.get? handler).map
        (Handler.append (operation.told settings handler store)) := by
  have unchanged : ∀ after : Store, after.handlers = store.handlers →
      after.handlers.get? handler = (store.handlers.get? handler).map (Handler.append []) := by
    intro after same
    rw [same, Handler.append_nil, Option.map_id]
    rfl
  cases operation with
  | declare | createRepo | call => exact get?_handlers_perform_of_ruleClass? rfl handler
  | post target events => exact get?_handlers_post store target handler events
  | clearEvents target => exact absurd rfl (clearsNone target)
  | createHandler id forwards => exact absurd rfl (createsNone id forwards)
  | createRegistry id repoPrefix scope directories _ materializer recorder =>
      exact unchanged _ (handlers_addRecorder store recorder)
  | mark context what add repository =>
      rcases store.exists_mark_eq context what add repository with ⟨vendors, marked⟩
      refine unchanged _ ?_
      show (store.mark context what add repository).1.handlers = _
      rw [marked]
  | extract | locationOf | inspectRegistry | sealRegistry | inspectContext | createContext
  | setCaller | attach | detach | inspectHandler | inspectRecorder | createVendor =>
      exact unchanged _ rfl

/--
No operation removes a handler or changes whom it passes events on to. Unless it clears
the handler, it adds to it what it tells it.
-/
theorem exists_handler_perform (settings : Settings)
    (present : store.handlers.get? handler = some held) (operation : Operation) :
    ∃ later, (operation.perform settings store).1.handlers.get? handler = some later ∧
      later.forwards = held.forwards ∧
      (operation ≠ .clearEvents handler →
        later.events = held.events ++ operation.told settings handler store) := by
  have untold : ∀ after : Table Handler, after.get? handler = some held →
      operation.told settings handler store = [] →
      ∃ later, after.get? handler = some later ∧ later.forwards = held.forwards ∧
        (operation ≠ .clearEvents handler →
          later.events = held.events ++ operation.told settings handler store) := by
    intro after unchanged nothing
    exact ⟨held, unchanged, rfl, fun _ => by rw [nothing, List.append_nil]⟩
  cases operation with
  | clearEvents target =>
      by_cases here : handler = target
      · subst here
        refine ⟨held.clear, ?_, rfl, fun kept => absurd rfl kept⟩
        show (store.handlers.modify handler Handler.clear).get? handler = _
        rw [Table.get?_modify_self, present]
        rfl
      · exact untold _ (by rw [← present]; exact Table.get?_modify_of_ne _ _ here) rfl
  | createHandler id forwards =>
      have different := Table.ne_next_of_get? present id
      exact untold _ (by rw [← present]; exact Table.get?_add_of_ne _ _ different) rfl
  | declare | createRepo | call | post | extract | locationOf | inspectRegistry | sealRegistry
  | createRegistry | inspectContext | createContext | setCaller | attach | detach
  | inspectHandler | inspectRecorder | createVendor | mark =>
      rw [get?_handlers_perform settings store (by simp) (by simp), present]
      exact ⟨_, rfl, rfl, fun _ => rfl⟩

/-- The listeners of a handler stay the same ones. -/
theorem listeners_perform (settings : Settings) (present : store.handlers.get? handler = some held)
    (operation : Operation) :
    (operation.perform settings store).1.listeners handler = store.listeners handler := by
  rcases exists_handler_perform settings present operation with ⟨later, laterPresent, forwards, _⟩
  rw [listeners, listeners, present, laterPresent, Option.map_some, Option.map_some, forwards]

/-! ## A run -/

/-- A handler that is not cleared in a run holds what it held and what it has been told. -/
theorem exists_handler_runAll (settings : Settings)
    (present : store.handlers.get? handler = some held) (operations : List Operation) :
    ∃ later, (runAll settings operations store).handlers.get? handler = some later ∧
      (.clearEvents handler ∉ operations →
        later.events = held.events ++ toldBy settings handler operations store) := by
  induction operations generalizing store held with
  | nil => exact ⟨held, present, fun _ => (List.append_nil held.events).symm⟩
  | cons operation rest ih =>
      rcases exists_handler_perform settings present operation with
        ⟨middle, middlePresent, _, first⟩
      rcases ih middlePresent with ⟨later, laterPresent, second⟩
      refine ⟨later, laterPresent, ?_⟩
      intro kept
      rw [second (mt (List.mem_cons_of_mem operation) kept),
        first fun clears => kept (clears ▸ List.mem_cons_self), List.append_assoc]
      rfl

end Operation

namespace HearsOnce

variable {operation : Operation} {operations : List Operation} {attempt : Attempt}

/-- A handler goes on hearing a registry, whatever is done. -/
theorem perform (hears : store.HearsOnce reference handler) (settings : Settings)
    (operation : Operation) :
    (operation.perform settings store).1.HearsOnce reference handler := by
  rcases hears with ⟨registry, listened, present, listenedPresent, once⟩
  rcases Operation.exists_extends_perform settings present operation with
    ⟨later, laterPresent, extension⟩
  rcases Operation.exists_handler_perform settings listenedPresent operation with
    ⟨laterListened, laterListenedPresent, _⟩
  have sameHandler : later.handler = registry.handler := by
    rw [← extension.setup]
  refine ⟨later, laterListened, laterPresent, ?_, ?_⟩
  · rw [sameHandler]
    exact laterListenedPresent
  · rw [sameHandler, timesHeard, Operation.listeners_perform settings listenedPresent]
    exact once

/-- An attempt in the registry tells the handler the events that it posts. -/
theorem told_of_attemptIn? (hears : store.HearsOnce reference handler)
    (attempted : operation.attemptIn? settings reference store = some attempt) :
    operation.told settings handler store = attempt.events := by
  rcases hears with ⟨registry, _, present, _, once⟩
  have made := Operation.attempt?_of_attemptIn? attempted
  rcases Operation.exists_declares_of_attempt? made with
    ⟨found, values, ruleClass, location, version, _, foundPresent, rfl⟩
  rw [present] at foundPresent
  cases foundPresent
  rcases classed : operation.ruleClass? with _ | _
  · rw [Operation.attempt?_of_ruleClass?_eq_none classed] at made
    cases made
  · simp [Operation.told, Operation.posted?_of_ruleClass? classed, made, once]

/-- Whatever else a handler is told, it is told the events of all attempts, in their order. -/
theorem flatMap_sublist_toldBy (hears : store.HearsOnce reference handler) :
    ((Operation.attempts settings reference operations store).flatMap Attempt.events).Sublist
      (Operation.toldBy settings handler operations store) := by
  induction operations generalizing store with
  | nil => exact .refl _
  | cons operation rest ih =>
      rw [Operation.toldBy, Operation.attempts, List.flatMap_append]
      refine List.Sublist.append ?_ (ih (hears.perform settings operation))
      rcases attempted : operation.attemptIn? settings reference store with _ | attempt
      · exact List.nil_sublist _
      · rw [hears.told_of_attemptIn? attempted]
        simp

/-- A handler that nobody else tells anything is told these events and no others. -/
theorem toldBy_eq_flatMap (hears : store.HearsOnce reference handler)
    (only : Operation.OnlyDeclares settings reference handler operations store) :
    Operation.toldBy settings handler operations store =
      (Operation.attempts settings reference operations store).flatMap Attempt.events := by
  induction operations generalizing store with
  | nil => rfl
  | cons operation rest ih =>
      rcases only with ⟨silent, later⟩
      rw [Operation.toldBy, Operation.attempts, List.flatMap_append,
        ih (hears.perform settings operation) later]
      congr 1
      rcases attempted : operation.attemptIn? settings reference store with _ | attempt
      · exact silent attempted
      · rw [hears.told_of_attemptIn? attempted]
        simp

end HearsOnce

end Store

end ExternalRepos

import ExternalRepos.Proofs.Session.Log

/-!
# Stores that differ in their notes

Handlers keep events and recorders keep requests, and both are there to be read
by people only. Two stores are alike when nothing else tells them apart: they
have the same registries, contexts and vendor marks, and under every identifier
handlers that pass events on to the same ones and as many recorders.

No operation looks at the notes, except for the two that show them. Alike stores
therefore give the same outcome to every operation, up to the notes in it, and
are alike afterwards (`Alike.perform`).
-/

namespace ExternalRepos

namespace Table

variable {α β : Type}

/-- What a change leaves alone is the same in all objects of the table. -/
theorem map_objects_modify (table : Table α) (reference : Reference) {change : α → α}
    {observed : α → β} (unchanged : ∀ object, observed (change object) = observed object)
    (id : String) :
    ((table.modify reference change).objects id).map observed =
      (table.objects id).map observed := by
  rw [objects_modify]
  split
  · apply List.ext_getElem?
    intro index
    rw [List.getElem?_map, List.getElem?_map, List.getElem?_modify]
    rcases (table.objects id)[index]? with _ | object
    · rfl
    · split
      · exact congrArg some (unchanged object)
      · rfl
  · rfl

end Table

namespace Store

/-- Stores that differ in nothing but the events and requests that were noted. -/
structure Alike (left right : Store) : Prop where
  registries : left.registries = right.registries
  contexts : left.contexts = right.contexts
  vendors : left.vendors = right.vendors
  handlers : ∀ id, (left.handlers.objects id).map Handler.forwards =
    (right.handlers.objects id).map Handler.forwards
  recorders : ∀ id, (left.recorders.objects id).length = (right.recorders.objects id).length

/-- A reply without the notes that it shows. -/
def Reply.withoutNotes : Reply → Reply
  | .handler shown => .handler shown.clear
  | .requests _ => .requests []
  | other => other

namespace Alike

variable {left middle right : Store}

theorem refl (store : Store) : Alike store store :=
  ⟨rfl, rfl, rfl, fun _ => rfl, fun _ => rfl⟩

theorem symm (alike : Alike left right) : Alike right left where
  registries := alike.registries.symm
  contexts := alike.contexts.symm
  vendors := alike.vendors.symm
  handlers := fun id => (alike.handlers id).symm
  recorders := fun id => (alike.recorders id).symm

theorem trans (first : Alike left middle) (second : Alike middle right) : Alike left right where
  registries := first.registries.trans second.registries
  contexts := first.contexts.trans second.contexts
  vendors := first.vendors.trans second.vendors
  handlers := fun id => (first.handlers id).trans (second.handlers id)
  recorders := fun id => (first.recorders id).trans (second.recorders id)

/-! ## Notes -/

theorem post (store : Store) (handler : Reference) (events : List Event) :
    Alike (store.post handler events) store where
  registries := rfl
  contexts := rfl
  vendors := rfl
  handlers := by
    intro id
    have passes : ∀ (listeners : List Reference) (table : Table Handler),
        ((listeners.foldl (fun table listener => table.modify listener (Handler.append events))
          table).objects id).map Handler.forwards = (table.objects id).map Handler.forwards := by
      intro listeners
      induction listeners with
      | nil => exact fun _ => rfl
      | cons listener rest ih =>
          intro table
          rw [List.foldl_cons, ih]
          have unchanged : ∀ handler : Handler,
              (handler.append events).forwards = handler.forwards := fun _ => rfl
          exact table.map_objects_modify listener unchanged id
    exact passes (store.listeners handler) store.handlers
  recorders := fun _ => rfl

theorem clearEvents (store : Store) (handler : Reference) :
    Alike { store with handlers := store.handlers.modify handler Handler.clear } store :=
  ⟨rfl, rfl, rfl, store.handlers.map_objects_modify handler fun _ => rfl, fun _ => rfl⟩

theorem note (store : Store) (recorder : Option Reference) (request : Option Request) :
    Alike (store.note recorder request) store := by
  unfold Store.note
  split
  · refine ⟨rfl, rfl, rfl, fun _ => rfl, ?_⟩
    intro id
    rw [Table.objects_modify]
    split
    · rw [List.length_modify]
    · rfl
  · exact refl store

/-- All that a declaration does besides its notes is to change its registry. -/
theorem commit (store : Store) (registry : Reference) (attempt : Attempt) :
    Alike (store.commit registry attempt)
      { store with registries := store.registries.modify registry fun _ => attempt.registry } :=
  (post _ _ _).trans (note _ _ _)

theorem length_handlers (alike : Alike left right) (id : String) :
    (left.handlers.objects id).length = (right.handlers.objects id).length := by
  have lengths := congrArg List.length (alike.handlers id)
  rwa [List.length_map, List.length_map] at lengths

theorem forwards_handler (alike : Alike left right) (handler : Reference) :
    (left.handlers.get? handler).map Handler.forwards =
      (right.handlers.get? handler).map Handler.forwards := by
  rw [Table.get?, Table.get?, ← List.getElem?_map, ← List.getElem?_map, alike.handlers]

/-! ## Operations -/

theorem setCaller (alike : Alike left right) (context : Reference) (caller : Location) :
    Alike (left.setCaller context caller) (right.setCaller context caller) :=
  { alike with contexts := by rw [Store.setCaller, Store.setCaller, alike.contexts] }

theorem declare (alike : Alike left right) (settings : Settings) (registry : Reference)
    (values : OrderedMap Value) (ruleClass : RuleClass) (location : Location)
    (version : Option String) :
    Alike (left.declare settings registry values ruleClass location version).1
        (right.declare settings registry values ruleClass location version).1 ∧
      (left.declare settings registry values ruleClass location version).2 =
        (right.declare settings registry values ruleClass location version).2 := by
  unfold Store.declare
  rw [alike.registries]
  split
  · exact ⟨alike, rfl⟩
  · rename_i target _
    refine ⟨?_, rfl⟩
    apply (commit left registry _).trans
    apply Alike.trans _ (commit right registry _).symm
    exact { alike with registries := by rw [alike.registries] }

theorem createRepo (alike : Alike left right) (settings : Settings) (context registry : Reference)
    (values : OrderedMap Value) (ruleClass : RuleClass) (location : Option Location) :
    Alike (left.createRepo settings context registry values ruleClass location).1
        (right.createRepo settings context registry values ruleClass location).1 ∧
      (left.createRepo settings context registry values ruleClass location).2 =
        (right.createRepo settings context registry values ruleClass location).2 := by
  unfold Store.createRepo
  rw [alike.contexts]
  split
  · exact ⟨alike, rfl⟩
  · exact alike.declare settings _ _ _ _ _

theorem call (alike : Alike left right) (settings : Settings) (context : Reference)
    (ruleClass : RuleClass) (values : OrderedMap Value) (position : Location) :
    Alike (left.call settings context ruleClass values position).1
        (right.call settings context ruleClass values position).1 ∧
      (left.call settings context ruleClass values position).2 =
        (right.call settings context ruleClass values position).2 := by
  unfold Store.call attachedRegistry
  rw [alike.contexts]
  split
  · exact ⟨alike, rfl⟩
  · exact ⟨alike, rfl⟩
  · exact ⟨alike, rfl⟩
  · rename_i registry entered _ _ _
    have entering := alike.setCaller context position
    rcases entering.createRepo settings context registry values ruleClass none with
      ⟨stillAlike, sameOutcome⟩
    exact ⟨stillAlike.setCaller context entered.caller, sameOutcome⟩

theorem mark (alike : Alike left right) (context : Reference) (what : String)
    (add : VendorMarks → RepositoryName → VendorMarks) (repository : String) :
    Alike (left.mark context what add repository).1 (right.mark context what add repository).1 ∧
      (left.mark context what add repository).2 = (right.mark context what add repository).2 := by
  unfold Store.mark attachedVendor
  rw [alike.contexts]
  split
  · exact ⟨alike, rfl⟩
  · split
    · exact ⟨alike, rfl⟩
    · rw [alike.vendors]
      exact ⟨{ alike with contexts := rfl, vendors := rfl }, rfl⟩

theorem addHandler (alike : Alike left right) (id : String) (forwards : List Reference) :
    Alike (left.addHandler id forwards) (right.addHandler id forwards) := by
  refine { alike with handlers := ?_ }
  intro other
  simp only [Store.addHandler, Table.objects_add]
  split
  · rw [List.map_append, List.map_append, alike.handlers]
  · exact alike.handlers other

theorem addRecorder (alike : Alike left right) (recorder : Option String) :
    Alike (left.addRecorder recorder) (right.addRecorder recorder) := by
  cases recorder with
  | none => exact alike
  | some id =>
      refine { alike with recorders := ?_ }
      intro other
      simp only [Store.addRecorder, Table.objects_add]
      split
      · rw [List.length_append, List.length_append, alike.recorders]
      · exact alike.recorders other

theorem nextRecorder_eq (alike : Alike left right) (recorder : Option String) :
    left.nextRecorder recorder = right.nextRecorder recorder := by
  have next : left.recorders.next = right.recorders.next := by
    funext id
    rw [Table.next, Table.next, alike.recorders]
  rw [nextRecorder, nextRecorder, next]

theorem handler_withoutNotes (alike : Alike left right) (handler : Reference) :
    ((required (left.handlers.get? handler) handler.id).map Reply.handler).map Reply.withoutNotes =
      ((required (right.handlers.get? handler) handler.id).map Reply.handler).map
        Reply.withoutNotes := by
  have forwards := alike.forwards_handler handler
  rcases leftFound : left.handlers.get? handler with _ | leftHandler
  · rw [leftFound, Option.map_none, eq_comm, Option.map_eq_none_iff] at forwards
    rw [forwards]
  · rw [leftFound, Option.map_some, eq_comm, Option.map_eq_some_iff] at forwards
    rcases forwards with ⟨rightHandler, rightFound, same⟩
    rw [rightFound]
    simp only [required, Except.map, Reply.withoutNotes, Handler.clear, same]

/-- An operation does not tell alike stores apart, and leaves alike stores behind. -/
theorem perform (alike : Alike left right) (settings : Settings) (operation : Operation) :
    Alike (operation.perform settings left).1 (operation.perform settings right).1 ∧
      (operation.perform settings left).2.map Reply.withoutNotes =
        (operation.perform settings right).2.map Reply.withoutNotes := by
  cases operation with
  | declare registry values ruleClass location version =>
      rcases alike.declare settings registry values ruleClass location version with
        ⟨stillAlike, same⟩
      exact ⟨stillAlike, by simp only [Operation.perform, same]⟩
  | createRepo context registry values ruleClass location =>
      rcases alike.createRepo settings context registry values ruleClass location with
        ⟨stillAlike, same⟩
      exact ⟨stillAlike, by simp only [Operation.perform, same]⟩
  | call context ruleClass values position =>
      rcases alike.call settings context ruleClass values position with
        ⟨stillAlike, same⟩
      exact ⟨stillAlike, by simp only [Operation.perform, same]⟩
  | mark context what add repository =>
      rcases alike.mark context what add repository with ⟨stillAlike, same⟩
      exact ⟨stillAlike, by simp only [Operation.perform, same]⟩
  | extract | locationOf | inspectRegistry =>
      exact ⟨alike, by simp only [Operation.perform, alike.registries]⟩
  | inspectContext => exact ⟨alike, by simp only [Operation.perform, alike.contexts]⟩
  | inspectHandler handler => exact ⟨alike, alike.handler_withoutNotes handler⟩
  | inspectRecorder => exact ⟨alike, rfl⟩
  | post handler events =>
      exact ⟨((post left handler events).trans alike).trans (post right handler events).symm, rfl⟩
  | clearEvents handler =>
      exact ⟨((clearEvents left handler).trans alike).trans (clearEvents right handler).symm, rfl⟩
  | sealRegistry registry =>
      refine ⟨{ alike with registries := ?_ }, rfl⟩
      simp only [Operation.perform, Store.sealRegistry, alike.registries]
  | createRegistry id repoPrefix scope directories handler materializer recorder =>
      refine ⟨{ alike.addRecorder recorder with registries := ?_ },
        by simp only [Operation.perform, alike.registries]⟩
      simp only [Operation.perform, addRegistry, alike.registries, alike.nextRecorder_eq]
  | createContext id context =>
      refine ⟨{ alike with contexts := ?_ }, by simp only [Operation.perform, alike.contexts]⟩
      simp only [Operation.perform, Store.addContext, alike.contexts]
  | setCaller context caller => exact ⟨alike.setCaller context caller, rfl⟩
  | attach context registry =>
      refine ⟨{ alike with contexts := ?_ }, rfl⟩
      simp only [Operation.perform, Store.attachRegistry, alike.contexts]
  | detach context =>
      refine ⟨{ alike with contexts := ?_ }, rfl⟩
      simp only [Operation.perform, Store.detachRegistry, alike.contexts]
  | createHandler id forwards =>
      refine ⟨alike.addHandler id forwards, ?_⟩
      simp only [Operation.perform, Table.next, alike.length_handlers]
  | createVendor context =>
      refine ⟨{ alike with contexts := ?_, vendors := ?_ }, rfl⟩
      · simp only [Operation.perform, Store.addVendor, alike.contexts, alike.vendors]
      · simp only [Operation.perform, Store.addVendor, alike.vendors]

end Alike

end Store

end ExternalRepos

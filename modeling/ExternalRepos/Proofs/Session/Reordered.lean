import ExternalRepos.Proofs.Registry.Independent
import ExternalRepos.Proofs.Session.Residue

/-!
# Declarations in another order

A run of declarations in one registry of a session is the run of that registry: the
answers are those of its attempts (`history_operations`), the registry ends as it ends
by itself (`get?_registries_operations`), and every handler gets the events that the
attempts post, as often as it listens to the handler of the registry
(`get?_handlers_operations`). What is known of independent declarations in a registry
is so carried over to the session (`declarations_commute`).
-/

namespace ExternalRepos

namespace Handler

theorem append_nil : append [] = id := by
  funext handler
  simp [append]

theorem append_comp_append (earlier later : List Event) :
    append later ∘ append earlier = append (earlier ++ later) := by
  funext handler
  simp [append]

end Handler

/-- A call as an operation on a registry of a session. -/
def DeclarationCall.operation (reference : Reference) (call : DeclarationCall) : Store.Operation :=
  .declare reference call.values call.ruleClass call.location call.version

namespace Store

variable {settings : Settings} {store : Store} {reference : Reference} {registry : Registry}

/-- How often a handler gets what is posted to another one, or to itself. -/
def timesHeard (store : Store) (target handler : Reference) : Nat :=
  (store.listeners target).count handler

theorem get?_handlers_post (store : Store) (target handler : Reference) (events : List Event) :
    (store.post target events).handlers.get? handler =
      (store.handlers.get? handler).map
        (Handler.append (List.replicate (store.timesHeard target handler) events).flatten) := by
  have poured : ∀ (listeners : List Reference) (table : Table Handler),
      (listeners.foldl (fun table listener => table.modify listener (Handler.append events))
        table).get? handler =
      (table.get? handler).map
        (Handler.append (List.replicate (listeners.count handler) events).flatten) := by
    intro listeners
    induction listeners with
    | nil =>
        intro table
        simp [Handler.append_nil]
    | cons listener rest ih =>
        intro table
        rw [List.foldl_cons, ih]
        by_cases here : handler = listener
        · subst here
          rw [Table.get?_modify_self, List.count_cons_self, List.replicate_succ, List.flatten_cons,
            Option.map_map, Handler.append_comp_append]
        · rw [Table.get?_modify_of_ne _ _ here, List.count_cons_of_ne (Ne.symm here)]
  exact poured (store.listeners target) store.handlers

theorem timesHeard_commit (store : Store) (target : Reference) (attempt : Attempt)
    (posted handler : Reference) :
    (store.commit target attempt).timesHeard posted handler = store.timesHeard posted handler := by
  have forwards := (Alike.commit store target attempt).forwards_handler posted
  simp only [timesHeard, listeners, forwards]

theorem get?_handlers_commit (store : Store) (target handler : Reference) (attempt : Attempt) :
    (store.commit target attempt).handlers.get? handler =
      (store.handlers.get? handler).map (Handler.append (List.replicate
        (store.timesHeard attempt.registry.handler handler) attempt.events).flatten) := by
  unfold commit
  rw [get?_handlers_post, handlers_note]
  simp only [timesHeard, listeners, handlers_note]

namespace Operation

theorem perform_operation (present : store.registries.get? reference = some registry)
    (call : DeclarationCall) :
    (call.operation reference).perform settings store =
      (store.commit reference (registry.attempt settings call),
        (registry.attempt settings call).outcome.map .declared) := by
  simp only [DeclarationCall.operation, perform, declare_of_get? present]
  rfl

theorem present_commit (present : store.registries.get? reference = some registry)
    (attempt : Attempt) :
    (store.commit reference attempt).registries.get? reference = some attempt.registry := by
  rw [registries_commit, Table.get?_modify_self, present]
  rfl

theorem get?_registries_operations (settings : Settings)
    (present : store.registries.get? reference = some registry) (calls : List DeclarationCall) :
    (runAll settings (calls.map (DeclarationCall.operation reference)) store).registries.get?
      reference = some (registry.after settings calls) := by
  induction calls generalizing store registry with
  | nil => exact present
  | cons call rest ih =>
      simp only [List.map_cons, runAll, perform_operation present]
      exact ih (present_commit present _)

theorem history_operations (settings : Settings)
    (present : store.registries.get? reference = some registry) (calls : List DeclarationCall) :
    (history settings (calls.map (DeclarationCall.operation reference)) store).map Prod.snd =
      (registry.attempts settings calls).map fun attempt => attempt.outcome.map .declared := by
  induction calls generalizing store registry with
  | nil => rfl
  | cons call rest ih =>
      simp only [List.map_cons, history, perform_operation present, Registry.attempts]
      rw [ih (present_commit present _)]

/-- The events that a handler gets from attempts, when it hears each of them so many times. -/
def heard (times : Nat) (attempts : List Attempt) : List Event :=
  attempts.flatMap fun attempt => (List.replicate times attempt.events).flatten

theorem get?_handlers_operations (settings : Settings)
    (present : store.registries.get? reference = some registry) (calls : List DeclarationCall)
    (handler : Reference) :
    (runAll settings (calls.map (DeclarationCall.operation reference)) store).handlers.get?
      handler = (store.handlers.get? handler).map (Handler.append
        (heard (store.timesHeard registry.handler handler)
          (registry.attempts settings calls))) := by
  induction calls generalizing store registry with
  | nil => simp [runAll, heard, Registry.attempts, Handler.append_nil]
  | cons call rest ih =>
      have setup := (registry.agreesOn_none_attempt settings call).setup
      have sameHandler : (registry.attempt settings call).registry.handler = registry.handler := by
        have same := congrArg Registry.handler setup
        exact same
      simp only [List.map_cons, runAll, perform_operation present]
      rw [ih (present_commit present _), get?_handlers_commit, timesHeard_commit, sameHandler,
        Option.map_map, Handler.append_comp_append]
      rfl

theorem heard_eq_flatMap (times : Nat) (attempts : List Attempt) :
    heard times attempts = (attempts.map Attempt.visible).flatMap fun visible =>
      (List.replicate times visible.2.1).flatten := by
  rw [heard, List.flatMap_map]
  rfl

theorem history_operations_visible (settings : Settings)
    (present : store.registries.get? reference = some registry) (calls : List DeclarationCall) :
    (history settings (calls.map (DeclarationCall.operation reference)) store).map Prod.snd =
      ((registry.attempts settings calls).map Attempt.visible).map fun visible =>
        visible.2.2.map .declared := by
  rw [history_operations settings present, List.map_map]
  rfl

/--
Declarations of different names do not depend on each other. In any order that keeps
the declarations of one name in their order, each has the outcome that it had, with the
same specification or the same error; the registry binds the same specifications and
locations to the same names; and every handler holds the same events, in some order.
-/
theorem declarations_commute (settings : Settings)
    (present : store.registries.get? reference = some registry) {calls : List DeclarationCall}
    {reordered : List (DeclarationCall × Nat)}
    (order : DeclarationCall.Reorders calls reordered) :
    let original := calls.map (DeclarationCall.operation reference)
    let changed := reordered.map fun entry => entry.1.operation reference
    (∀ (position : Nat) (call : DeclarationCall) (index : Nat),
      reordered[position]? = some (call, index) → ∃ outcome,
        ((history settings original store).map Prod.snd)[index]? = some outcome ∧
        ((history settings changed store).map Prod.snd)[position]? = some outcome) ∧
    (∃ ended other,
      (runAll settings original store).registries.get? reference = some ended ∧
      (runAll settings changed store).registries.get? reference = some other ∧
      ∀ name, other.extract.get? name = ended.extract.get? name ∧
        other.locationOf name = ended.locationOf name) ∧
    ∀ handler kept, (runAll settings original store).handlers.get? handler = some kept →
      ∃ other, (runAll settings changed store).handlers.get? handler = some other ∧
        other.events.Perm kept.events := by
  intro original changed
  have changedEq :
      changed = (reordered.map Prod.fst).map (DeclarationCall.operation reference) := by
    rw [List.map_map]
    rfl
  have before := registry.visible_attempts settings calls
  have after := order.visible_attempts_reordered settings registry
  rw [changedEq]
  refine ⟨?_, ?_, ?_⟩
  · intro position call index entered
    refine ⟨(registry.visibleAt settings calls (call, index)).2.2.map .declared, ?_, ?_⟩
    · rw [history_operations_visible settings present, before]
      simp only [List.getElem?_map, order.getElem?_zipIdx entered, Option.map_some]
    · rw [history_operations_visible settings present, after]
      simp only [List.getElem?_map, entered, Option.map_some]
  · refine ⟨_, _, get?_registries_operations settings present calls,
      get?_registries_operations settings present (reordered.map Prod.fst), ?_⟩
    intro name
    have same := order.get?_after settings registry name
    simp only [Registry.extract, Registry.locationOf, OrderedMap.get?_mapValues, same, and_self]
  · intro handler kept found
    rw [get?_handlers_operations settings present, Option.map_eq_some_iff] at found
    rcases found with ⟨began, beganPresent, rfl⟩
    refine ⟨_, by rw [get?_handlers_operations settings present, beganPresent]; rfl, ?_⟩
    apply List.Perm.append_left
    rw [heard_eq_flatMap, heard_eq_flatMap, before, after]
    exact (order.perm.map _).flatMap_right _

/-- A conflict is still reported at the place of the first declaration if another comes between. -/
theorem declarations_commute_of_conflict :
    let ruleClass : RuleClass :=
      ⟨"archive", default, [⟨"old", .string, .null, false, some "gone", ""⟩], "", by decide⟩
    let first : DeclarationCall :=
      ⟨.ofList [("name", .text "a"), ("old", .text "x")], ruleClass, ⟨"ext.bzl", 1, 0⟩, none⟩
    let other : DeclarationCall :=
      ⟨.ofList [("old", .text "y"), ("name", .text "b")], ruleClass, ⟨"ext.bzl", 2, 0⟩, none⟩
    let again : DeclarationCall :=
      ⟨.ofList [("name", .text "a")], ruleClass, ⟨"ext.bzl", 3, 0⟩, none⟩
    let reordered := [(other, 1), (first, 0), (again, 2)]
    let posted := (Store.empty.addHandler "events" []).handlers.next "events"
    let store := (Store.empty.addHandler "events" []).addRegistry "r" "ext+" default default
      posted .schema none
    let reference := Store.empty.registries.next "r"
    let changed := reordered.map fun entry => entry.1.operation reference
    DeclarationCall.Reorders [first, other, again] reordered ∧
    (∃ registry, store.registries.get? reference = some registry) ∧
    ((history .default changed store).map Prod.snd)[2]? =
      some (.error (.conflict "a" ⟨"ext.bzl", 1, 0⟩)) := by
  intro ruleClass first other again reordered posted store reference changed
  have different : ¬ DeclarationCall.SameName other first := by
    rintro ⟨name, otherCarries, firstCarries⟩
    have otherName : other.name? = some "b" := rfl
    have firstName : first.name? = some "a" := rfl
    have same : some "b" = some "a" :=
      otherName.symm.trans (otherCarries.trans (firstCarries.symm.trans firstName))
    exact absurd same (by decide)
  have order : DeclarationCall.Reorders [first, other, again] reordered := by
    refine ⟨.swap _ _ _, ?_⟩
    simp [reordered, different]
  have present : store.registries.get? reference = some _ := rfl
  refine ⟨order, ⟨_, present⟩, ?_⟩
  rcases (declarations_commute .default present order).1 2 again 2 rfl with
    ⟨outcome, before, after⟩
  have conflict : outcome = .error (.conflict "a" ⟨"ext.bzl", 1, 0⟩) := by
    cases before
    rfl
  rw [← conflict]
  exact after

end Operation

end Store

end ExternalRepos

import ExternalRepos.Proofs.Isolation.Run
import Mathlib.Logic.Function.Basic

/-!
# Interleaved programs

Several owners run their steps in one session, in whatever order, each with a group of
objects of its own. The shared session matches, for every owner, the session that the
owner has to itself, and no handler belongs to two of them (`Separate`). A step of one
owner changes nothing but objects of its group, so it does not disturb the others
(`Matches.of_keeps`), and it answers as it does in the session of its owner. So every
owner gets the answers, and ends with the objects, that it gets and ends with alone
(`Step.isolated`).
-/

namespace ExternalRepos

/-- What the programs of another group do does not disturb the group. -/
theorem Group.Matches.of_keeps {group other : Group} {links taken : Links}
    {before after alone : Store} (same : group.Matches links before alone)
    (kept : other.Keeps taken before after) (apart : group.Apart other)
    (untaken : ∀ {handler counterpart another}, links handler counterpart →
      ¬ taken handler another) : group.Matches links after alone where
  registries := same.registries.of_sameOutside kept.registries apart.registries
  contexts := same.contexts.of_sameOutside kept.contexts apart.contexts
  vendors := same.vendors.of_sameOutside kept.vendors apart.contexts
  recorders := same.recorders.of_sameOutside kept.recorders apart.recorders
  handlers := {
    unique := same.handlers.unique
    found := by
      intro handler counterpart linked
      rcases same.handlers.found linked with ⟨object, another, found, present, here⟩
      rcases kept.handlers handler object found with ⟨later, laterFound, unchanged⟩
      rw [unchanged fun _ => untaken linked] at laterFound
      exact ⟨object, another, laterFound, present, here⟩
    current := by
      intro id named
      have current : after.handlers.current? id = before.handlers.current? id := by
        rw [Table.current?, Table.current?, kept.created id (apart.handlers id named)]
      rw [current]
      exact same.handlers.current id named }

variable {ι : Type} {groups : ι → Group} {links : ι → Links} {shared : Store} {alone : ι → Store}

/-- The shared session matches the session of every owner, and no handler has two owners. -/
structure Separate (groups : ι → Group) (links : ι → Links) (shared : Store) (alone : ι → Store) :
    Prop where
  same : ∀ owner, (groups owner).Matches (links owner) shared (alone owner)
  disjoint : ∀ {owner other handler counterpart another}, links owner handler counterpart →
    links other handler another → owner = other

namespace Step

variable [DecidableEq ι]

/-- The steps of one owner, in their order. -/
def ownedBy (owner : ι) (steps : List (ι × Step)) : List (ι × Step) :=
  steps.filter fun entry => entry.1 = owner

/-- The session after steps of several owners. -/
def runShared (environment : Environment) (steps : List (ι × Step)) (store : Store) : Store :=
  (runAll environment (steps.map Prod.snd) store).store

/--
What the steps of several owners answer, each with its owner: the trace without the
addresses of handlers in it, and the failure.
-/
def answers (environment : Environment) :
    List (ι × Step) → Store → List (ι × List Entry × Option Error)
  | [], _ => []
  | (owner, step) :: rest, store =>
      let ran := step.run environment store
      (owner, Entry.plainTrace ran.trace, ran.failure) :: answers environment rest ran.store

end Step

namespace Separate

variable [DecidableEq ι]

/-- A step of one owner does in the shared session what it does in the session of its owner. -/
theorem step (separate : Separate groups links shared alone)
    (apart : ∀ {owner other}, owner ≠ other → (groups owner).Apart (groups other))
    (environment : Environment) {owner : ι} {step : Step} (within : step.Within (groups owner)) :
    let ran := step.run environment shared
    let own := step.run environment (alone owner)
    ∃ later,
      Separate groups (Function.update links owner later) ran.store
        (Function.update alone owner own.store) ∧
      (groups owner).Advances (links owner) later shared ran.store (alone owner) own.store ∧
      Entry.plainTrace ran.trace = Entry.plainTrace own.trace ∧ ran.failure = own.failure := by
  intro ran own
  rcases (Group.Matches.run_and_runBody environment).1 step shared (groups owner) (links owner)
    (alone owner) (separate.same owner) within with ⟨⟨later, same, advances⟩, trace, failure⟩
  have untaken : ∀ {other handler counterpart another}, other ≠ owner →
      links other handler counterpart → ¬ later handler another := by
    intro other handler counterpart another different mine taken
    rcases advances.fresh handler another taken with earlier | absent
    · exact different (separate.disjoint mine earlier)
    · rcases (separate.same other).handlers.found mine with ⟨object, _, found, _⟩
      rw [absent] at found
      cases found
  refine ⟨later, ⟨?_, ?_⟩, advances, trace, failure⟩
  · intro other
    by_cases here : other = owner
    · subst here
      rw [Function.update_self, Function.update_self]
      exact same
    · rw [Function.update_of_ne here, Function.update_of_ne here]
      exact (separate.same other).of_keeps advances.keeps (apart here) (untaken here)
  · intro first second handler counterpart another mine taken
    by_cases isFirst : first = owner
    · by_cases isSecond : second = owner
      · rw [isFirst, isSecond]
      · subst isFirst
        rw [Function.update_self] at mine
        rw [Function.update_of_ne isSecond] at taken
        exact absurd mine (untaken isSecond taken)
    · by_cases isSecond : second = owner
      · subst isSecond
        rw [Function.update_self] at taken
        rw [Function.update_of_ne isFirst] at mine
        exact absurd taken (untaken isFirst mine)
      · rw [Function.update_of_ne isFirst] at mine
        rw [Function.update_of_ne isSecond] at taken
        exact separate.disjoint mine taken

/-- All steps of all owners, and what becomes of each owner. -/
theorem runShared (separate : Separate groups links shared alone)
    (apart : ∀ {owner other}, owner ≠ other → (groups owner).Apart (groups other))
    (environment : Environment) {steps : List (ι × Step)}
    (within : ∀ entry ∈ steps, entry.2.Within (groups entry.1)) (owner : ι) :
    let own := Step.ownedBy owner steps
    (Step.answers environment steps shared).filter (fun entry => entry.1 = owner) =
        Step.answers environment own (alone owner) ∧
      ∃ later,
        (groups owner).Matches later (Step.runShared environment steps shared)
          (Step.runShared environment own (alone owner)) ∧
        (∀ handler counterpart, links owner handler counterpart → later handler counterpart) ∧
        ∀ counterpart,
          ((Step.runShared environment own (alone owner)).handlers.get? counterpart).isSome →
            ((alone owner).handlers.get? counterpart).isSome ∨
              ∃ handler, later handler counterpart := by
  -- one owner is looked at, but the sessions of all of them go on, to know whose handlers are whose
  induction steps generalizing links shared alone with
  | nil =>
      exact ⟨rfl, links owner, separate.same owner, fun _ _ linked => linked,
        fun _ found => Or.inl found⟩
  | cons entry rest ih =>
      rcases entry with ⟨actor, step⟩
      have others : ∀ entry ∈ rest, entry.2.Within (groups entry.1) := fun entry entryMem =>
        within entry (List.mem_cons_of_mem _ entryMem)
      rcases separate.step apart environment (within (actor, step) List.mem_cons_self) with
        ⟨between, separateAfter, advances, trace, failure⟩
      rcases ih separateAfter others with ⟨answers, later, same, widens, complete⟩
      by_cases here : actor = owner
      · subst here
        rw [Function.update_self] at answers same widens complete
        have own : Step.ownedBy actor ((actor, step) :: rest) =
            (actor, step) :: Step.ownedBy actor rest := by
          simp [Step.ownedBy]
        rw [own]
        refine ⟨?_, later, same, ?_, ?_⟩
        · rw [Step.answers, List.filter_cons_of_pos (by simp), answers, trace, failure]
          rfl
        · intro handler counterpart linked
          exact widens handler counterpart (advances.widens handler counterpart linked)
        · intro counterpart found
          rcases complete counterpart found with earlier | linked
          · rcases advances.complete counterpart earlier with began | ⟨handler, linked⟩
            · exact Or.inl began
            · exact Or.inr ⟨handler, widens handler counterpart linked⟩
          · exact Or.inr linked
      · have elsewhere : owner ≠ actor := fun equal => here equal.symm
        rw [Function.update_of_ne elsewhere] at answers same widens complete
        have own : Step.ownedBy owner ((actor, step) :: rest) = Step.ownedBy owner rest := by
          simp [Step.ownedBy, here]
        rw [own]
        refine ⟨?_, later, same, widens, complete⟩
        rw [Step.answers, List.filter_cons_of_neg (by simpa using here), answers]

end Separate

/-- The objects of a group lead to objects of the group only, and `owned` are its handlers. -/
def Group.Closed (group : Group) (owned : Reference → Prop) (store : Store) : Prop :=
  group.Matches (fun handler counterpart => handler = counterpart ∧ owned handler) store store

theorem Group.closed_empty (group : Group) : group.Closed (fun _ => False) .empty where
  registries := fun _ _ => .nil
  contexts := fun _ _ => .nil
  vendors := fun _ _ => .nil
  recorders := fun _ _ => .nil
  handlers := {
    unique := fun linked => linked.2.elim
    found := fun linked => linked.2.elim
    current := fun _ _ => .none }

/--
Separate evaluations are isolated. The steps of several owners run in one session in any
order, and each of them names objects of the group of its owner only. What every step of
an owner answers is what it answers when the steps of the owner run alone; and every
registry, context and vendor mark and every handler of the owner ends as it ends then.
-/
theorem Step.isolated [DecidableEq ι] (environment : Environment)
    (apart : ∀ {owner other}, owner ≠ other → (groups owner).Apart (groups other))
    {store : Store} {owned : ι → Reference → Prop}
    (owners : ∀ {owner other handler}, owned owner handler → owned other handler → owner = other)
    (closed : ∀ owner, (groups owner).Closed (owned owner) store) {steps : List (ι × Step)}
    (within : ∀ entry ∈ steps, entry.2.Within (groups entry.1)) (owner : ι) :
    let own := ownedBy owner steps
    (answers environment steps store).filter (fun entry => entry.1 = owner) =
        answers environment own store ∧
      ∃ links,
        (groups owner).Matches links (runShared environment steps store)
          (runShared environment own store) ∧
        (∀ handler, owned owner handler → links handler handler) ∧
        ∀ counterpart,
          ((runShared environment own store).handlers.get? counterpart).isSome →
            (store.handlers.get? counterpart).isSome ∨ ∃ handler, links handler counterpart := by
  have separate : Separate groups
      (fun owner handler counterpart => handler = counterpart ∧ owned owner handler) store
      (fun _ => store) :=
    ⟨closed, fun mine taken => owners mine.2 taken.2⟩
  rcases separate.runShared apart environment within owner with
    ⟨answered, links, same, widens, complete⟩
  refine ⟨answered, links, same, ?_, complete⟩
  intro handler mine
  exact widens handler handler ⟨rfl, mine⟩

/-- Two evaluations, with a step between them and one after them. -/
theorem Step.isolated_of_evaluations :
    let ruleClass : RuleClass :=
      ⟨"archive", default, [⟨"old", .string, .null, false, some "gone", ""⟩], "", by decide⟩
    let environment : Environment := ⟨.default, .ofList [("archive", ruleClass)]⟩
    let group (owner : String) : Group :=
      { registries := fun id => id = owner
        contexts := fun id => id = owner
        handlers := fun _ => False
        recorders := fun _ => False
        evaluates := True }
    let body (owner : String) : List Step :=
      [.call owner owner "archive"
          [("name", .literal (.text "a")), ("old", .literal (.text owner))] .builtin,
        .events "events"]
    let evaluate (owner : String) : Step :=
      .evaluate ⟨"ext", owner, default, none, none, none, owner, owner⟩ (body owner)
    let steps : List (String × Step) :=
      [("first", evaluate "first"), ("second", .createContext "second" none none),
        ("second", evaluate "second"), ("first", .extract "first")]
    (∀ entry ∈ steps, entry.2.Within (group entry.1)) ∧
    (answers environment steps .empty).filter (fun entry => entry.1 = "second") =
      answers environment (ownedBy "second" steps) .empty := by
  intro ruleClass environment group body evaluate steps
  have evaluates : ∀ owner, (evaluate owner).Within (group owner) := by
    intro owner
    have reuses : ∀ registries : Group, registries.Reuses
        [("name", .literal (.text "a")), ("old", .literal (.text owner))] := by
      intro registries
      simp [Group.Reuses, Term.Within]
    exact ⟨⟨trivial, rfl, rfl, nofun, nofun⟩, ⟨rfl, rfl, reuses _⟩, Or.inr rfl, trivial⟩
  have within : ∀ entry ∈ steps, entry.2.Within (group entry.1) := by
    intro entry entryMem
    simp only [steps, List.mem_cons, List.not_mem_nil, or_false] at entryMem
    rcases entryMem with rfl | rfl | rfl | rfl
    · exact evaluates "first"
    · exact rfl
    · exact evaluates "second"
    · exact rfl
  have apart : ∀ {owner other}, owner ≠ other → (group owner).Apart (group other) := by
    intro owner other different
    have distinct : ∀ id, id = owner → ¬ id = other := by
      rintro id rfl
      exact different
    exact ⟨distinct, distinct, fun _ named => named.elim, fun _ recorded => recorded.elim⟩
  refine ⟨within, ?_⟩
  exact (isolated environment apart (fun impossible => impossible.elim)
    (fun owner => (group owner).closed_empty) within "second").1

end ExternalRepos

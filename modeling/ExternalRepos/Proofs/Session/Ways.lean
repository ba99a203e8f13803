import ExternalRepos.Proofs.Session.Attempt
import ExternalRepos.Proofs.Session.Lifecycle

/-!
# Three ways to declare

A repository is declared directly in a registry, or with the version and the position
of a context, or by a rule call, which finds the registry in the context as well. What a
declaration does to a store has nothing to do with contexts, so it makes no difference
that a context tells another position while a rule call runs, and afterwards it tells its
own position again. `Operation.Directly` relates runs in which some declarations are made
directly to those in which they are not.

Only a call can be refused for its keywords, since only a call has parameters of its own.
-/

namespace ExternalRepos.Store

variable {settings : Settings} {store : Store} {context registry : Reference} {entered : Context}
  {ruleClass : RuleClass} {values : OrderedMap Value} {position : Location}

/-- Keywords pass unless one of them has the name of a parameter, which is then refused. -/
theorem checkKeywords_cases (ruleClass : RuleClass) (values : OrderedMap Value) :
    (checkKeywords ruleClass values = .ok () ∧ ∀ key ∈ callParameters, key ∉ values.keys) ∨
      ∃ key ∈ callParameters, key ∈ values.keys ∧
        checkKeywords ruleClass values = .error (.reservedKeyword key ruleClass.name) := by
  rcases found : values.keys.find? callParameters.contains with _ | key
  · refine .inl ⟨by simp only [checkKeywords, found], ?_⟩
    intro key parameter given
    exact List.find?_eq_none.1 found key given (List.contains_iff_mem.2 parameter)
  · have parameter := List.contains_iff_mem.1 (List.find?_some found)
    have given := List.mem_of_find?_eq_some found
    exact .inr ⟨key, parameter, given, by simp only [checkKeywords, found]⟩

theorem checkKeywords_of_allowed (allowed : ∀ key ∈ callParameters, key ∉ values.keys) :
    checkKeywords ruleClass values = .ok () := by
  rcases checkKeywords_cases ruleClass values with ⟨passed, _⟩ | ⟨key, parameter, given, _⟩
  · exact passed
  · exact absurd given (allowed key parameter)

/-- A call with a keyword that is named like a parameter of it does not look for a registry. -/
theorem exists_call_of_reserved (settings : Settings) (store : Store) (context : Reference)
    (ruleClass : RuleClass) {key : String} (parameter : key ∈ callParameters)
    (given : key ∈ values.keys) (position : Location) :
    ∃ reserved, store.call settings context ruleClass values position =
      (store, .error (.reservedKeyword reserved ruleClass.name)) := by
  rcases checkKeywords_cases ruleClass values with ⟨_, allowed⟩ | ⟨reserved, _, _, refused⟩
  · exact absurd given (allowed key parameter)
  · exact ⟨reserved, by simp only [call, refused]⟩

@[simp]
theorem vendors_commit (store : Store) (registry : Reference) (attempt : Attempt) :
    (store.commit registry attempt).vendors = store.vendors := by
  unfold commit note
  split <;> rfl

@[simp]
theorem vendors_declare (store : Store) (registry : Reference) (values : OrderedMap Value)
    (ruleClass : RuleClass) (location : Location) (version : Option String) :
    (store.declare settings registry values ruleClass location version).1.vendors =
      store.vendors := by
  unfold declare
  split <;> simp

/-- Whatever becomes of a rule call, it leaves contexts and vendor marks as it found them. -/
theorem contexts_call (settings : Settings) (store : Store) (context : Reference)
    (ruleClass : RuleClass) (values : OrderedMap Value) (position : Location) :
    (store.call settings context ruleClass values position).1.contexts = store.contexts ∧
      (store.call settings context ruleClass values position).1.vendors = store.vendors := by
  rcases store.call_eq_declare_or settings context ruleClass values position with
    ⟨failure, refused⟩ | ⟨registry, entered, _, _, called⟩
  · rw [refused]
    exact ⟨rfl, rfl⟩
  · rw [called]
    exact ⟨contexts_declare .., vendors_declare ..⟩

namespace Operation

/-- Two runs, the second of which makes some declarations directly that the first one does not. -/
inductive Directly (settings : Settings) : Store → List Operation → List Operation → Prop
  | nil (store : Store) : Directly settings store [] []
  | keep {store : Store} (operation : Operation) {rest others : List Operation}
      (further : Directly settings (operation.perform settings store).1 rest others) :
      Directly settings store (operation :: rest) (operation :: others)
  | replace {store : Store} {operation : Operation} {registry : Reference}
      {values : OrderedMap Value} {ruleClass : RuleClass} {location : Location}
      {version : Option String} {rest others : List Operation}
      (declares : operation.Declares store registry values ruleClass location version)
      (further : Directly settings (operation.perform settings store).1 rest others) :
      Directly settings store (operation :: rest)
        (.declare registry values ruleClass location version :: others)

theorem Directly.outcomes_eq {operations others : List Operation}
    (same : Directly settings store operations others) :
    (history settings operations store).map Prod.snd =
      (history settings others store).map Prod.snd := by
  induction same with
  | nil => rfl
  | keep operation _ ih =>
      simp only [history, List.map_cons]
      rw [ih]
  | replace declares _ ih =>
      simp only [history, List.map_cons]
      rw [ih, declares.perform_eq]

theorem Directly.runAll_eq {operations others : List Operation}
    (same : Directly settings store operations others) :
    runAll settings operations store = runAll settings others store := by
  induction same with
  | nil => rfl
  | keep operation _ ih => exact ih
  | replace declares _ ih =>
      simp only [runAll]
      rw [ih, declares.perform_eq]

theorem Directly.attempts_eq {operations others : List Operation}
    (same : Directly settings store operations others) (reference : Reference) :
    attempts settings reference operations store = attempts settings reference others store := by
  induction same with
  | nil => rfl
  | keep operation _ ih =>
      simp only [attempts]
      rw [ih]
  | replace declares _ ih =>
      simp only [attempts, attemptIn?]
      rw [ih, declares.attempt?_eq, declares.perform_eq]

/--
The three ways to declare agree. For every context that has a registry attached, a rule call
from a position does what a declaration with the context and that position does, and this is
what a direct declaration with the version of the context does: the stores after them are
equal, with all registries, events and noted requests, and so are the errors or specifications.
If the registry exists, all of this is what the registry makes of the declaration. Without a
position, a declaration has the one that its context tells.

A rule call never changes a context or the marks of a vendor file. It does nothing but fail if
no registry is attached. It also does nothing but fail if a keyword is named like a parameter
of the call itself; this is the one case in which the ways differ.

In any run, declarations through contexts can be replaced by direct ones: the outcomes of all
operations, what every registry asks its materializer and posts, and the store at the end stay
what they are.
-/
theorem ways_agree (settings : Settings) (store : Store) :
    (∀ context entered registry ruleClass values position,
      store.contexts.get? context = some entered → entered.registry = some registry →
      let version := some entered.semanticsVersion
      let declared := store.declare settings registry values ruleClass position version
      store.createRepo settings context registry values ruleClass (some position) = declared ∧
      store.createRepo settings context registry values ruleClass none =
        store.createRepo settings context registry values ruleClass (some entered.caller) ∧
      ((∀ key ∈ callParameters, key ∉ values.keys) →
        store.call settings context ruleClass values position = declared) ∧
      ∀ target, store.registries.get? registry = some target →
        let attempt := target.declare values ruleClass position (settings.chooseVersion version)
        declared = (store.commit registry attempt, attempt.outcome)) ∧
    (∀ context ruleClass values position,
      let called := store.call settings context ruleClass values position
      called.1.contexts = store.contexts ∧ called.1.vendors = store.vendors ∧
      ((∀ key ∈ callParameters, key ∉ values.keys) → store.IsDetached context →
        ∃ failure, called = (store, .error failure) ∧ failure.kind = .evaluation) ∧
      ∀ key ∈ callParameters, key ∈ values.keys →
        ∃ failure, called = (store, .error failure) ∧ failure.kind = .type) ∧
    ∀ operations others, Directly settings store operations others →
      (history settings operations store).map Prod.snd =
          (history settings others store).map Prod.snd ∧
        (∀ reference,
          attempts settings reference operations store =
            attempts settings reference others store) ∧
        runAll settings operations store = runAll settings others store := by
  refine ⟨?_, ?_, fun _ _ same => ⟨same.outcomes_eq, same.attempts_eq, same.runAll_eq⟩⟩
  · intro context entered registry ruleClass values position present attached version declared
    refine ⟨createRepo_of_get? present .., ?_, ?_, fun target => (declare_of_get? · ..)⟩
    · simp only [createRepo_of_get? present, Option.getD_none, Option.getD_some]
    · intro allowed
      exact call_eq_declare (checkKeywords_of_allowed allowed) present attached position
  · intro context ruleClass values position called
    rcases store.contexts_call settings context ruleClass values position with
      ⟨contexts, vendors⟩
    refine ⟨contexts, vendors, ?_, ?_⟩
    · intro allowed detached
      have keywords : checkKeywords ruleClass values = .ok () := checkKeywords_of_allowed allowed
      exact ⟨_, call_of_isDetached detached settings ruleClass keywords position, rfl⟩
    · intro key parameter given
      rcases exists_call_of_reserved settings store context ruleClass parameter given position with
        ⟨reserved, refused⟩
      exact ⟨_, refused, rfl⟩

/-- Two calls of which the second one conflicts with the first, and the direct declarations. -/
theorem ways_agree_of_conflict :
    let ruleClass : RuleClass := ⟨"archive", default, [], "", by decide⟩
    let registry : Reference := ⟨"r", 0⟩
    let context : Reference := ⟨"c", 0⟩
    let entered : Context := (Context.create .default none none).attach registry
    let store :=
      (Store.empty.addRegistry "r" "ext+" default default default .schema none).addContext
      "c" entered
    let named : OrderedMap Value := .ofList [("name", .text "a")]
    let first : Location := ⟨"ext.bzl", 1, 0⟩
    let second : Location := ⟨"ext.bzl", 2, 0⟩
    let direct (position : Location) : Operation :=
      .declare registry named ruleClass position (some "1")
    let calls : List Operation :=
      [.call context ruleClass named first, .call context ruleClass named second]
    let history := history .default [direct first, direct second] store
    Directly .default store calls [direct first, direct second] ∧
    runAll .default calls store = runAll .default [direct first, direct second] store ∧
    (history.map fun entry => entry.2.toOption.isSome) = [true, false] ∧
    store.call .default context ruleClass named first =
      store.declare .default registry named ruleClass first (some "1") ∧
    (∃ failure, (store.detachRegistry context).call .default context ruleClass named first =
      (store.detachRegistry context, .error failure) ∧ failure.kind = .evaluation) := by
  intro ruleClass registry context entered store named first second direct calls history
  have allowed : ∀ key ∈ callParameters, key ∉ named.keys := by decide
  have keywords : checkKeywords ruleClass named = .ok () := rfl
  have attached : entered.registry = some registry := rfl
  have present : store.contexts.get? context = some entered := rfl
  have stays : ((Operation.call context ruleClass named first).perform .default
      store).1.contexts.get? context = some entered := rfl
  have directly : Directly .default store calls [direct first, direct second] :=
    .replace (.call keywords present attached first)
      (.replace (.call keywords stays attached second) (.nil _))
  rcases ways_agree .default store with ⟨agree, _, runs⟩
  rcases agree context entered registry ruleClass named first present attached with
    ⟨_, _, called, _⟩
  rcases ways_agree .default (store.detachRegistry context) with ⟨_, detached, _⟩
  rcases detached context ruleClass named first with ⟨_, _, fails, _⟩
  exact ⟨directly, (runs _ _ directly).2.2, rfl, called allowed, fails allowed ⟨_, rfl, rfl⟩⟩

/-- A rule with an attribute that is named like a parameter of the call can only be declared. -/
theorem call_ne_declare_of_parameter :
    let ruleClass : RuleClass :=
      ⟨"odd", default, [⟨"ctx", .string, .null, false, none, ""⟩], "", by decide⟩
    let registry : Reference := ⟨"r", 0⟩
    let context : Reference := ⟨"c", 0⟩
    let entered : Context := (Context.create .default none none).attach registry
    let store :=
      (Store.empty.addRegistry "r" "ext+" default default default .schema none).addContext
      "c" entered
    let values : OrderedMap Value := .ofList [("name", .text "a"), ("ctx", .text "v")]
    let declared := store.declare .default registry values ruleClass ⟨"ext.bzl", 10, 0⟩
      (some entered.semanticsVersion)
    let called := store.call .default context ruleClass values ⟨"ext.bzl", 10, 0⟩
    store.contexts.get? context = some entered ∧
    (∃ specification, declared.2 = .ok specification) ∧
    called = (store, .error (.reservedKeyword "ctx" "odd")) ∧
    (Error.reservedKeyword "ctx" "odd").kind = .type ∧ called ≠ declared := by
  intro ruleClass registry context entered store values declared called
  have succeeded : ∃ specification, declared.2 = .ok specification := ⟨_, rfl⟩
  have refused : called = (store, .error (.reservedKeyword "ctx" "odd")) := rfl
  refine ⟨rfl, succeeded, refused, rfl, ?_⟩
  intro same
  rcases succeeded with ⟨specification, outcome⟩
  rw [← same, refused] at outcome
  cases outcome

end Operation

end ExternalRepos.Store

import ExternalRepos.Proofs.Session.Declared
import ExternalRepos.Proofs.Session.Residue

/-!
# What operations attempt

An operation that declares something attempts it in one registry, and what the registry
makes of that is all that the operation does to a store (`perform_of_attempt?`). There are
three such operations; `Operation.Declares` says of each which registry it declares in,
and with which values, location and version. A direct declaration with all of these does
the same (`Declares.perform_eq`).
-/

namespace ExternalRepos.Store.Operation

/--
The declaration that an operation attempts, and the registry that it does so in. A rule
call that is refused for its keywords or finds no registry attempts nothing.
-/
def attempt? (settings : Settings) (store : Store) : Operation → Option (Reference × Attempt)
  | .declare reference values ruleClass location version =>
      (store.registries.get? reference).map fun registry =>
        (reference, registry.declare values ruleClass location (settings.chooseVersion version))
  | .createRepo context reference values ruleClass location =>
      (store.contexts.get? context).bind fun caller =>
        (store.registries.get? reference).map fun registry =>
          (reference, registry.declare values ruleClass (location.getD caller.caller)
            (settings.chooseVersion (some caller.semanticsVersion)))
  | .call context ruleClass values position =>
      match checkKeywords ruleClass values with
      | .error _ => none
      | .ok () =>
          (store.contexts.get? context).bind fun entered =>
            entered.registry.bind fun reference =>
              (store.registries.get? reference).map fun registry =>
                (reference, registry.declare values ruleClass position
                  (settings.chooseVersion (some entered.semanticsVersion)))
  | _ => none

/-- The declaration that an operation attempts in one registry. -/
def attemptIn? (settings : Settings) (reference : Reference) (store : Store)
    (operation : Operation) : Option Attempt :=
  (operation.attempt? settings store).bind fun attempted =>
    if attempted.1 = reference then some attempted.2 else none

/-- The declarations that operations attempt in one registry, in order. -/
def attempts (settings : Settings) (reference : Reference) : List Operation → Store → List Attempt
  | [], _ => []
  | operation :: rest, store =>
      (operation.attemptIn? settings reference store).toList ++
        attempts settings reference rest (operation.perform settings store).1

/--
An operation declares something in a registry: directly, or with the version and unless
another is given the position of a context, or by a rule call, which finds the registry
in its context.
-/
inductive Declares (store : Store) : Operation → Reference → OrderedMap Value → RuleClass →
    Location → Option String → Prop
  | declare (registry : Reference) (values : OrderedMap Value) (ruleClass : RuleClass)
      (location : Location) (version : Option String) :
      Declares store (.declare registry values ruleClass location version) registry values
        ruleClass location version
  | createRepo {context registry : Reference} {caller : Context} {values : OrderedMap Value}
      {ruleClass : RuleClass} (present : store.contexts.get? context = some caller)
      (location : Option Location) :
      Declares store (.createRepo context registry values ruleClass location) registry values
        ruleClass (location.getD caller.caller) (some caller.semanticsVersion)
  | call {context registry : Reference} {entered : Context} {values : OrderedMap Value}
      {ruleClass : RuleClass} (keywords : checkKeywords ruleClass values = .ok ())
      (present : store.contexts.get? context = some entered)
      (attached : entered.registry = some registry) (position : Location) :
      Declares store (.call context ruleClass values position) registry values ruleClass position
        (some entered.semanticsVersion)

variable {settings : Settings} {store : Store} {operation : Operation} {reference : Reference}
  {attempt : Attempt}

namespace Declares

variable {values : OrderedMap Value} {ruleClass : RuleClass} {location : Location}
  {version : Option String}

theorem perform_eq
    (declares : operation.Declares store reference values ruleClass location version) :
    operation.perform settings store =
      (Operation.declare reference values ruleClass location version).perform settings store := by
  cases declares with
  | declare => rfl
  | createRepo present => simp only [perform, createRepo_of_get? present]
  | call keywords present attached => simp only [perform, call_eq_declare keywords present attached]

theorem attempt?_eq
    (declares : operation.Declares store reference values ruleClass location version) :
    operation.attempt? settings store =
      (Operation.declare reference values ruleClass location version).attempt? settings store := by
  cases declares with
  | declare => rfl
  | createRepo present => simp only [attempt?, present, Option.bind_some]
  | call keywords present attached =>
      simp only [attempt?, keywords, present, attached, Option.bind_some]

theorem attempt?_of_get? {registry : Registry}
    (declares : operation.Declares store reference values ruleClass location version)
    (present : store.registries.get? reference = some registry) :
    operation.attempt? settings store = some (reference,
      registry.declare values ruleClass location (settings.chooseVersion version)) := by
  rw [declares.attempt?_eq]
  simp only [attempt?, present, Option.map_some]

end Declares

/-- What is attempted is declared in the registry of that moment. -/
theorem exists_declares_of_attempt?
    (attempted : operation.attempt? settings store = some (reference, attempt)) :
    ∃ registry values ruleClass location version,
      operation.Declares store reference values ruleClass location version ∧
      store.registries.get? reference = some registry ∧
      attempt = registry.declare values ruleClass location (settings.chooseVersion version) := by
  cases operation with
  | declare target values ruleClass location version =>
      rcases Option.map_eq_some_iff.1 attempted with ⟨registry, present, same⟩
      cases same
      exact ⟨registry, values, ruleClass, location, version, .declare .., present, rfl⟩
  | createRepo context target values ruleClass location =>
      rcases Option.bind_eq_some_iff.1 attempted with ⟨caller, callerPresent, inside⟩
      rcases Option.map_eq_some_iff.1 inside with ⟨registry, present, same⟩
      cases same
      exact ⟨registry, values, ruleClass, _, _, .createRepo callerPresent location, present, rfl⟩
  | call context ruleClass values position =>
      rcases keywords : checkKeywords ruleClass values with failure | _
      · simp only [attempt?, keywords] at attempted
        cases attempted
      · simp only [attempt?, keywords] at attempted
        rcases Option.bind_eq_some_iff.1 attempted with ⟨entered, callerPresent, inside⟩
        rcases Option.bind_eq_some_iff.1 inside with ⟨target, attached, inside⟩
        rcases Option.map_eq_some_iff.1 inside with ⟨registry, present, same⟩
        cases same
        exact ⟨registry, values, ruleClass, position, _,
          .call keywords callerPresent attached position, present, rfl⟩
  | extract | locationOf | inspectRegistry | sealRegistry | createRegistry | inspectContext
  | createContext | setCaller | attach | detach | inspectHandler | createHandler | post
  | clearEvents | inspectRecorder | createVendor | mark => cases attempted

/-- What an operation attempts is all that it does. -/
theorem perform_of_attempt?
    (attempted : operation.attempt? settings store = some (reference, attempt)) :
    operation.perform settings store =
      (store.commit reference attempt, attempt.outcome.map .declared) := by
  rcases exists_declares_of_attempt? attempted with
    ⟨registry, values, ruleClass, location, version, declares, present, rfl⟩
  rw [declares.perform_eq]
  simp only [perform, declare_of_get? present]

/-- A declaration that does not get as far as a registry does nothing. -/
theorem perform_of_attempt?_eq_none {ruleClass : RuleClass}
    (classed : operation.ruleClass? = some ruleClass)
    (nothing : operation.attempt? settings store = none) :
    (operation.perform settings store).1 = store := by
  cases operation with
  | declare target values ruleClass location version =>
      have missing := Option.map_eq_none_iff.1 nothing
      simp only [perform, Store.declare, missing]
  | createRepo context target values ruleClass location =>
      rcases callerPresent : store.contexts.get? context with _ | caller
      · simp only [perform, Store.createRepo, callerPresent]
      · simp only [attempt?, callerPresent, Option.bind_some] at nothing
        have missing := Option.map_eq_none_iff.1 nothing
        simp only [perform, createRepo_of_get? callerPresent, Store.declare, missing]
  | call context ruleClass values position =>
      rcases keywords : checkKeywords ruleClass values with failure | _
      · simp only [perform, Store.call, keywords]
      · rcases store.call_eq_declare_or settings context ruleClass values position with
          ⟨failure, refused⟩ | ⟨target, entered, callerPresent, attached, called⟩
        · simp only [perform, refused]
        · simp only [attempt?, keywords, callerPresent, attached, Option.bind_some] at nothing
          have missing := Option.map_eq_none_iff.1 nothing
          simp only [perform, called, Store.declare, missing]
  | extract | locationOf | inspectRegistry | sealRegistry | createRegistry | inspectContext
  | createContext | setCaller | attach | detach | inspectHandler | createHandler | post
  | clearEvents | inspectRecorder | createVendor | mark => cases classed

theorem attempt?_of_attemptIn?
    (attempted : operation.attemptIn? settings reference store = some attempt) :
    operation.attempt? settings store = some (reference, attempt) := by
  rcases Option.bind_eq_some_iff.1 attempted with ⟨⟨target, made⟩, madeIn, here⟩
  split at here
  · rename_i same
    cases here
    rw [madeIn, ← same]
  · cases here

theorem attempt?_of_ruleClass?_eq_none
    (notClassed : operation.ruleClass? = none) : operation.attempt? settings store = none := by
  cases operation with
  | declare | createRepo | call => cases notClassed
  | extract | locationOf | inspectRegistry | sealRegistry | createRegistry | inspectContext
  | createContext | setCaller | attach | detach | inspectHandler | createHandler | post
  | clearEvents | inspectRecorder | createVendor | mark => rfl

end ExternalRepos.Store.Operation

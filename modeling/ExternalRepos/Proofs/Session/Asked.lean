import ExternalRepos.Proofs.Session.Attempt
import ExternalRepos.Proofs.Session.Outcome

/-!
# What materializers are asked

A registry asks its materializer once for each declaration that passes the three checks
before it, and the recorder of the registry notes what was asked (`get?_recorders_perform`).
Since every recorder serves one registry only, which `RecordersKept` ensures for the
registries that are created later, the recorder holds what this registry has asked and
nothing else.

A materializer need not answer the same question in the same way each time, so a run
consists of turns: an operation is performed, or a materializer changes how it behaves.
`Asked` goes through a run turn by turn and says which requests the declarations in it
lead to, and how each of these declarations ended.
-/

namespace ExternalRepos

/-- What is in a changed table was there before, changed or not. -/
theorem Table.exists_of_get?_modify {α : Type} {table : Table α} {target reference : Reference}
    {change : α → α} {object : α}
    (found : (table.modify target change).get? reference = some object) :
    ∃ before, table.get? reference = some before ∧ (object = before ∨ object = change before) := by
  by_cases here : reference = target
  · subst here
    rw [get?_modify_self] at found
    rcases Option.map_eq_some_iff.1 found with ⟨before, present, same⟩
    exact ⟨before, present, Or.inr same.symm⟩
  · rw [get?_modify_of_ne _ _ here] at found
    exact ⟨object, found, Or.inl rfl⟩

theorem Registry.Extends.recorder_eq {registry later : Registry} {log : List (String × Declaration)}
    (extension : registry.Extends log later) : later.recorder = registry.recorder := by
  rw [← extension.setup]

/-- A request that asks for a declaration of a registry, under the canonical name. -/
structure Request.AsksFor (request : Request) (settings : Settings) (registry : Registry)
    (name : String) (values : OrderedMap Value) (ruleClass : RuleClass)
    (version : Option String) : Prop where
  scope : request.scope = registry.scope
  directories : request.directories = registry.directories
  handler : request.handler = registry.handler
  callSite : request.callSite = Registry.callSite
  ruleClass : request.ruleClass = ruleClass
  /-- The version is the given one, if that is not empty. -/
  givenVersion : ∀ given, version = some given → given ≠ "" → request.semanticsVersion = given
  defaultVersion : version = none ∨ version = some "" →
    request.semanticsVersion = settings.semanticsVersion
  /-- The keywords are those of the declaration, in its order. -/
  keys : request.values.keys = values.keys
  name : request.values.get? "name" = some (.text (registry.repoPrefix ++ name))
  others : ∀ key, key ≠ "name" → request.values.get? key = values.get? key

namespace Registry

variable {registry : Registry} {settings : Settings} {name : String} {values : OrderedMap Value}
  {ruleClass : RuleClass} {version : Option String}

theorem get?_substituted_name (named : values.get? "name" = some (.text name)) :
    (registry.substituted name values).get? "name" =
      some (.text (registry.repoPrefix ++ name)) := by
  rw [substituted, OrderedMap.get?_mapValues, named, Option.map_some, if_pos rfl]

theorem get?_substituted_of_ne {key : String} (notName : key ≠ "name") :
    (registry.substituted name values).get? key = values.get? key := by
  rw [substituted, OrderedMap.get?_mapValues]
  simp [notName]

/-- There is one way for a registry to ask for a declaration. -/
theorem asksFor_iff (named : values.get? "name" = some (.text name)) {request : Request} :
    request.AsksFor settings registry name values ruleClass version ↔
      request = registry.request name values ruleClass (settings.chooseVersion version) := by
  constructor
  · intro asks
    have substituted : request.values = registry.substituted name values := by
      apply OrderedMap.ext_get?
      · rw [asks.keys, substituted, OrderedMap.keys_mapValues]
      · intro key _
        by_cases isName : key = "name"
        · rw [isName, asks.name, get?_substituted_name named]
        · rw [asks.others key isName, get?_substituted_of_ne isName]
    have chosen : request.semanticsVersion = settings.chooseVersion version := by
      rcases version with _ | given
      · exact asks.defaultVersion (Or.inl rfl)
      · by_cases empty : given = ""
        · subst empty
          exact asks.defaultVersion (Or.inr rfl)
        · rw [asks.givenVersion given rfl empty, Settings.chooseVersion, if_neg empty]
    rcases asks with ⟨scope, directories, handler, callSite, sameClass⟩
    rw [Registry.request, ← substituted, ← chosen, ← scope, ← directories, ← handler, ← callSite,
      ← sameClass]
  · rintro rfl
    refine ⟨rfl, rfl, rfl, rfl, rfl, ?_, ?_, OrderedMap.keys_mapValues ..,
      get?_substituted_name named, fun key => get?_substituted_of_ne⟩
    · rintro given rfl notEmpty
      exact if_neg notEmpty
    · rintro (rfl | rfl)
      · rfl
      · rfl

theorem newName_eq_ok_iff_chooses :
    registry.newName values = .ok name ↔
      registry.isSealed = false ∧ Chooses values name ∧ registry.locationOf name = none := by
  rw [newName_eq_ok_iff, locationOf, Option.map_eq_none_iff, Chooses, and_assoc]

/-- Something is asked for a declaration exactly if it passes the checks before. -/
theorem request_declare_eq_some_iff {location : Location} {semanticsVersion : String}
    {request : Request} :
    (registry.declare values ruleClass location semanticsVersion).request = some request ↔
      ∃ name, registry.newName values = .ok name ∧
        request = registry.request name values ruleClass semanticsVersion := by
  rcases named : registry.newName values with failure | name
  · simp [declare, named]
  · rw [request_declare_of_newName named]
    simp [eq_comm]

end Registry

namespace Store

/-- The store in which a registry has another materializer. -/
def withMaterializer (store : Store) (reference : Reference) (materializer : Materializer) :
    Store :=
  { store with
    registries := store.registries.modify reference fun registry =>
      { registry with materializer := materializer } }

/-- What happens in a run: something is done, or a materializer answers otherwise from now on. -/
inductive Turn
  | perform (operation : Operation)
  | behave (registry : Reference) (materializer : Materializer)

namespace Turn

/-- The store after a turn. -/
def take (settings : Settings) (store : Store) : Turn → Store
  | .perform operation => (operation.perform settings store).1
  | .behave registry materializer => store.withMaterializer registry materializer

/-- The store after some turns in order. -/
def takeAll (settings : Settings) : List Turn → Store → Store
  | [], store => store
  | turn :: rest, store => takeAll settings rest (turn.take settings store)

end Turn

/--
An operation makes a declaration that passes the checks before the materializer, and a
request asks for it as the registry does that began in a certain way.
-/
inductive Operation.Asks (settings : Settings) (reference : Reference) (began : Registry)
    (store : Store) (operation : Operation) (request : Request) : Prop
  | intro {registry : Registry} {values : OrderedMap Value} {ruleClass : RuleClass}
      {location : Location} {version : Option String} {name : String}
      (declares : operation.Declares store reference values ruleClass location version)
      (present : store.registries.get? reference = some registry)
      (isOpen : registry.isSealed = false) (chosen : Registry.Chooses values name)
      (fresh : registry.locationOf name = none)
      (asks : request.AsksFor settings began name values ruleClass version) :
      Asks settings reference began store operation request

/-- The requests that a run makes to a materializer, each with the reply to the declaration. -/
inductive Asked (settings : Settings) (reference : Reference) (began : Registry) :
    Store → List Turn → List (Request × Except Error Reply) → Prop
  | nil (store : Store) : Asked settings reference began store [] []
  | behave {store : Store} {registry : Reference} {materializer : Materializer}
      {rest : List Turn} {asked : List (Request × Except Error Reply)}
      (further : Asked settings reference began (store.withMaterializer registry materializer)
        rest asked) :
      Asked settings reference began store (.behave registry materializer :: rest) asked
  | asks {store : Store} {operation : Operation} {request : Request} {rest : List Turn}
      {asked : List (Request × Except Error Reply)}
      (asks : operation.Asks settings reference began store request)
      (further : Asked settings reference began (operation.perform settings store).1 rest asked) :
      Asked settings reference began store (.perform operation :: rest)
        ((request, (operation.perform settings store).2) :: asked)
  | silent {store : Store} {operation : Operation} {rest : List Turn}
      {asked : List (Request × Except Error Reply)}
      (silent : ∀ request, ¬operation.Asks settings reference began store request)
      (further : Asked settings reference began (operation.perform settings store).1 rest asked) :
      Asked settings reference began store (.perform operation :: rest) asked

variable {settings : Settings} {store : Store} {reference recorder : Reference}

/-! ## What an operation asks -/

namespace Operation

variable {operation : Operation} {registry began : Registry} {request : Request}

theorem asks_iff (present : store.registries.get? reference = some registry)
    (same : registry.request = began.request) :
    operation.Asks settings reference began store request ↔
      (operation.attemptIn? settings reference store).bind Attempt.request = some request := by
  constructor
  · rintro ⟨declares, found, isOpen, chosen, fresh, asks⟩
    rw [present] at found
    cases found
    rw [attemptIn?, declares.attempt?_of_get? present, Option.bind_some, if_pos rfl,
      Option.bind_some, Registry.request_declare_eq_some_iff]
    refine ⟨_, Registry.newName_eq_ok_iff_chooses.2 ⟨isOpen, chosen, fresh⟩, ?_⟩
    rw [same]
    exact (Registry.asksFor_iff chosen.1).1 asks
  · intro asked
    rcases Option.bind_eq_some_iff.1 asked with ⟨attempt, attempted, requested⟩
    rcases exists_declares_of_attempt? (attempt?_of_attemptIn? attempted) with
      ⟨found, values, ruleClass, location, version, declares, foundPresent, rfl⟩
    rw [present] at foundPresent
    cases foundPresent
    rcases Registry.request_declare_eq_some_iff.1 requested with ⟨name, named, requestEq⟩
    rcases Registry.newName_eq_ok_iff_chooses.1 named with ⟨isOpen, chosen, fresh⟩
    rw [same] at requestEq
    exact ⟨declares, present, isOpen, chosen, fresh, (Registry.asksFor_iff chosen.1).2 requestEq⟩

end Operation

/-! ## Recorders -/

/-- Every registry that notes its requests has a recorder to do so. -/
def RecordersKept (store : Store) : Prop :=
  ∀ reference registry recorder, store.registries.get? reference = some registry →
    registry.recorder = some recorder → ∃ requests, store.recorders.get? recorder = some requests

/-- The requests that an operation adds to a recorder. -/
def Operation.noted (settings : Settings) (recorder : Reference) (store : Store)
    (operation : Operation) : List Request :=
  match operation.attempt? settings store with
  | some (_, attempt) =>
      if attempt.registry.recorder = some recorder then attempt.request.toList else []
  | none => []

theorem recorders_commit (store : Store) (registry : Reference) (attempt : Attempt) :
    (store.commit registry attempt).recorders =
      (store.note attempt.registry.recorder attempt.request).recorders := by
  unfold commit post note
  split <;> rfl

section Recorded

variable {requests : List Request} (present : store.recorders.get? recorder = some requests)

include present

theorem get?_recorders_note (target : Option Reference) (request : Option Request) :
    (store.note target request).recorders.get? recorder =
      some (requests ++ if target = some recorder then request.toList else []) := by
  rcases target with _ | target
  · simpa [note] using present
  rcases request with _ | request
  · simpa [note] using present
  by_cases here : target = recorder
  · subst here
    simp [note, Table.get?_modify_self, present]
  · have different : recorder ≠ target := Ne.symm here
    simp [note, Table.get?_modify_of_ne _ _ different, present, here]

theorem get?_recorders_addRecorder (id : Option String) :
    (store.addRecorder id).recorders.get? recorder = some requests := by
  cases id with
  | none => exact present
  | some id =>
      show (store.recorders.add id []).get? recorder = _
      rw [Table.get?_add_of_ne _ _ (Table.ne_next_of_get? present id), present]

/-- No operation takes notes away from a recorder, and only attempts add to them. -/
theorem Operation.get?_recorders_perform (settings : Settings) (operation : Operation) :
    (operation.perform settings store).1.recorders.get? recorder =
      some (requests ++ operation.noted settings recorder store) := by
  rcases attempted : operation.attempt? settings store with _ | ⟨reference, attempt⟩
  · simp only [Operation.noted, attempted, List.append_nil]
    rcases classed : operation.ruleClass? with _ | ruleClass
    · cases operation with
      | declare | createRepo | call => cases classed
      | createRegistry id repoPrefix scope directories handler materializer noting =>
          exact get?_recorders_addRecorder present noting
      | mark context what add repository =>
          rcases store.exists_mark_eq context what add repository with ⟨vendors, marked⟩
          show (store.mark context what add repository).1.recorders.get? recorder = _
          rw [marked]
          exact present
      | extract | locationOf | inspectRegistry | sealRegistry | inspectContext
      | createContext | setCaller | attach | detach | inspectHandler | createHandler | post
      | clearEvents | inspectRecorder | createVendor => exact present
    · rw [perform_of_attempt?_eq_none classed attempted, present]
  · simp only [Operation.noted, attempted]
    rw [perform_of_attempt? attempted, recorders_commit, get?_recorders_note present]

end Recorded

/-! ## Registries and their recorders -/

/-- A registry that is there only after an operation is the one that the operation creates. -/
theorem Operation.exists_createRegistry_of_new {operation : Operation} {owner : Registry}
    (missing : store.registries.get? reference = none)
    (appeared : (operation.perform settings store).1.registries.get? reference = some owner) :
    ∃ id repoPrefix scope directories handler materializer noting,
      operation = .createRegistry id repoPrefix scope directories handler materializer noting ∧
      owner.recorder = store.nextRecorder noting := by
  have impossible : ¬∃ before, store.registries.get? reference = some before := by simp [missing]
  rcases attempted : operation.attempt? settings store with _ | ⟨target, attempt⟩
  · rcases classed : operation.ruleClass? with _ | ruleClass
    · cases operation with
      | declare | createRepo | call => cases classed
      | createRegistry id repoPrefix scope directories handler materializer noting =>
          have added : (store.registries.add id _).get? reference = some owner := appeared
          by_cases here : reference = store.registries.next id
          · subst here
            rw [Table.get?_add_next] at added
            cases added
            exact ⟨id, repoPrefix, scope, directories, handler, materializer, noting, rfl, rfl⟩
          · rw [Table.get?_add_of_ne _ _ here] at added
            exact absurd ⟨owner, added⟩ impossible
      | sealRegistry target =>
          rcases Table.exists_of_get?_modify appeared with ⟨before, present, _⟩
          exact absurd ⟨before, present⟩ impossible
      | mark context what add repository =>
          rcases store.exists_mark_eq context what add repository with ⟨vendors, marked⟩
          simp only [perform, marked] at appeared
          exact absurd ⟨owner, appeared⟩ impossible
      | extract | locationOf | inspectRegistry | inspectContext | createContext | setCaller
      | attach | detach | inspectHandler | createHandler | post | clearEvents | inspectRecorder
      | createVendor => exact absurd ⟨owner, appeared⟩ impossible
    · rw [perform_of_attempt?_eq_none classed attempted] at appeared
      exact absurd ⟨owner, appeared⟩ impossible
  · rw [perform_of_attempt? attempted, registries_commit] at appeared
    rcases Table.exists_of_get?_modify appeared with ⟨before, present, _⟩
    exact absurd ⟨before, present⟩ impossible

/-- The registries after a turn note their requests where they did before, or in a new recorder. -/
theorem Turn.recorder_of_take {turn : Turn} {owner : Registry}
    (appeared : (turn.take settings store).registries.get? reference = some owner) :
    (∃ before, store.registries.get? reference = some before ∧ owner.recorder = before.recorder) ∨
      ∀ recorder, owner.recorder = some recorder →
        store.recorders.get? recorder = none ∧
        ∃ requests, (turn.take settings store).recorders.get? recorder = some requests := by
  cases turn with
  | behave target materializer =>
      rcases Table.exists_of_get?_modify appeared with ⟨before, present, rfl | rfl⟩
      · exact Or.inl ⟨_, present, rfl⟩
      · exact Or.inl ⟨before, present, rfl⟩
  | perform operation =>
      rcases before : store.registries.get? reference with _ | registry
      · rcases Operation.exists_createRegistry_of_new before appeared with
          ⟨id, repoPrefix, scope, directories, handler, materializer, noting, rfl, noted⟩
        refine Or.inr ?_
        intro recorder recording
        rw [noted, nextRecorder] at recording
        rcases Option.map_eq_some_iff.1 recording with ⟨place, rfl, rfl⟩
        exact ⟨Table.get?_next store.recorders place, [],
          Table.get?_add_next store.recorders place []⟩
      · rcases Operation.exists_extends_perform settings before operation with
          ⟨later, present, extension⟩
        rw [take, present] at appeared
        cases appeared
        exact Or.inl ⟨registry, rfl, extension.recorder_eq⟩

theorem Turn.exists_recorder_take {requests : List Request}
    (present : store.recorders.get? recorder = some requests) (turn : Turn) :
    ∃ later, (turn.take settings store).recorders.get? recorder = some later := by
  cases turn with
  | behave => exact ⟨requests, present⟩
  | perform operation => exact ⟨_, Operation.get?_recorders_perform present settings operation⟩

theorem recordersKept_empty : Store.empty.RecordersKept := by
  intro reference registry recorder present
  cases present

theorem RecordersKept.take (kept : store.RecordersKept) (turn : Turn) :
    (turn.take settings store).RecordersKept := by
  intro reference owner recorder present recording
  rcases Turn.recorder_of_take present with ⟨before, beforePresent, same⟩ | created
  · rw [same] at recording
    rcases kept reference before recorder beforePresent recording with ⟨requests, found⟩
    exact turn.exists_recorder_take found
  · exact (created recorder recording).2

theorem RecordersKept.takeAll (kept : store.RecordersKept) (turns : List Turn) :
    (Turn.takeAll settings turns store).RecordersKept := by
  induction turns generalizing store with
  | nil => exact kept
  | cons turn rest ih => exact ih (kept.take turn)

/-! ## One registry along a run -/

/--
A registry that began in a certain way has got as far as another one. It asks as it did, and
it is the only one that notes its requests in its recorder.
-/
structure Follows (store : Store) (reference recorder : Reference) (began registry : Registry) :
    Prop where
  present : store.registries.get? reference = some registry
  request : registry.request = began.request
  recording : registry.recorder = some recorder
  recorded : ∃ requests, store.recorders.get? recorder = some requests
  alone : ∀ other owner, store.registries.get? other = some owner →
    owner.recorder = some recorder → other = reference

namespace Follows

variable {began registry : Registry} (follows : store.Follows reference recorder began registry)

include follows

/-- No turn lets go of a registry, and what was declared in it stays declared. -/
theorem take (settings : Settings) (turn : Turn) :
    ∃ later, (turn.take settings store).Follows reference recorder began later ∧
      ∀ name, later.locationOf name = none → registry.locationOf name = none := by
  have recorded :
      ∃ requests, (turn.take settings store).recorders.get? recorder = some requests := by
    rcases follows.recorded with ⟨requests, found⟩
    exact turn.exists_recorder_take found
  have alone : ∀ other owner, (turn.take settings store).registries.get? other = some owner →
      owner.recorder = some recorder → other = reference := by
    intro other owner present recording
    rcases Turn.recorder_of_take present with ⟨before, beforePresent, same⟩ | created
    · exact follows.alone other before beforePresent (same ▸ recording)
    · rcases follows.recorded with ⟨requests, found⟩
      rw [(created recorder recording).1] at found
      cases found
  cases turn with
  | behave target materializer =>
      by_cases here : reference = target
      · subst here
        refine ⟨{ registry with materializer := materializer },
          ⟨?_, follows.request, follows.recording, recorded, alone⟩, fun name absent => absent⟩
        show (store.registries.modify reference _).get? reference = _
        rw [Table.get?_modify_self, follows.present]
        rfl
      · refine ⟨registry, ⟨?_, follows.request, follows.recording, recorded, alone⟩,
          fun name absent => absent⟩
        show (store.registries.modify target _).get? reference = _
        rw [Table.get?_modify_of_ne _ _ here, follows.present]
  | perform operation =>
      rcases Operation.exists_extends_perform settings follows.present operation with
        ⟨later, present, extension⟩
      refine ⟨later, ⟨present, extension.request_eq.trans follows.request,
        extension.recorder_eq.trans follows.recording, recorded, alone⟩, ?_⟩
      intro name absent
      rw [Registry.locationOf, Option.map_eq_none_iff, OrderedMap.get?_eq_none_iff] at absent ⊢
      rw [OrderedMap.keys, extension.entries, List.map_append, List.mem_append, not_or] at absent
      exact absent.1

/-- The recorder gets what the registry asks. -/
theorem noted_eq (operation : Operation) :
    operation.noted settings recorder store =
      ((operation.attemptIn? settings reference store).bind Attempt.request).toList := by
  unfold Operation.noted Operation.attemptIn?
  rcases attempted : operation.attempt? settings store with _ | ⟨target, attempt⟩
  · rfl
  · rcases Operation.exists_declares_of_attempt? attempted with
      ⟨found, values, ruleClass, location, version, _, present, rfl⟩
    have sameRecorder : (found.declare values ruleClass location
        (settings.chooseVersion version)).registry.recorder = found.recorder :=
      (found.extends_declare values ruleClass location _).recorder_eq
    by_cases here : target = reference
    · subst here
      rw [follows.present] at present
      cases present
      simp [sameRecorder, follows.recording]
    · have elsewhere : found.recorder ≠ some recorder := fun recording =>
        here (follows.alone target found present recording)
      simp [sameRecorder, elsewhere, here]

theorem requestsOf_perform (settings : Settings) (operation : Operation) :
    (operation.perform settings store).1.requestsOf recorder =
      store.requestsOf recorder ++
        ((operation.attemptIn? settings reference store).bind Attempt.request).toList := by
  rcases follows.recorded with ⟨requests, found⟩
  rw [requestsOf, Operation.get?_recorders_perform found, requestsOf, found,
    follows.noted_eq operation]
  rfl

end Follows

/-- A declaration that was asked for and succeeded is declared from then on. -/
theorem locationOf_ne_none_of_ok {operation : Operation} {registry later : Registry}
    {values : OrderedMap Value} {ruleClass : RuleClass} {location : Location}
    {version : Option String} {name : String} {reply : Reply}
    (declares : operation.Declares store reference values ruleClass location version)
    (present : store.registries.get? reference = some registry)
    (chosen : Registry.Chooses values name)
    (succeeded : (operation.perform settings store).2 = .ok reply)
    (laterPresent : (operation.perform settings store).1.registries.get? reference = some later) :
    later.locationOf name ≠ none := by
  rw [Operation.perform_of_attempt? (declares.attempt?_of_get? present)] at succeeded laterPresent
  rw [registries_commit, Table.get?_modify_self, present, Option.map_some,
    Option.some.injEq] at laterPresent
  rcases registry.declare_cases values ruleClass location (settings.chooseVersion version) with
    ⟨failure, failed, _⟩ | ⟨other, specification, named, _, recorded⟩
  · rw [failed] at succeeded
    cases succeeded
  · rcases Registry.newName_eq_ok_iff_chooses.1 named with ⟨_, chosenOther, _⟩
    have sameName : name = other := by
      have texts := chosen.1.symm.trans chosenOther.1
      simpa using texts
    rw [← laterPresent, recorded, sameName, Registry.locationOf, Registry.record,
      OrderedMap.get?_insert, if_pos rfl]
    simp

/-- A registry puts the same prefix in front of all names. -/
theorem eq_of_canonical_eq {repoPrefix left right : String}
    (same : repoPrefix ++ left = repoPrefix ++ right) : left = right := by
  rw [← String.toList_inj, String.toList_append, String.toList_append] at same
  exact String.toList_inj.1 (List.append_cancel_left same)

/-- Requests under the same name are repeated only after declarations that failed. -/
def Retried (earlier later : Request × Except Error Reply) : Prop :=
  earlier.1.values.get? "name" = later.1.values.get? "name" → ∃ failure, earlier.2 = .error failure

/-- Nothing is asked under a name that is declared already. -/
def Unbound (began registry : Registry) (entry : Request × Except Error Reply) : Prop :=
  ∀ name, entry.1.values.get? "name" = some (.text (began.repoPrefix ++ name)) →
    registry.locationOf name = none

namespace Follows

variable {began registry later : Registry} {operation : Operation} {request : Request}
  (follows : store.Follows reference recorder began registry)
  (asks : operation.Asks settings reference began store request)

include follows asks

theorem unbound_of_asks :
    Unbound began registry (request, (operation.perform settings store).2) := by
  rcases asks with ⟨_, present, _, _, fresh, asksFor⟩
  intro name named
  rw [follows.present] at present
  cases present
  have texts := Value.text.inj (Option.some.inj (asksFor.name.symm.trans named))
  rw [← eq_of_canonical_eq texts]
  exact fresh

/-- What is asked afterwards repeats a request only if its declaration has failed. -/
theorem retried_of_unbound
    (laterPresent : (operation.perform settings store).1.registries.get? reference = some later)
    {entry : Request × Except Error Reply} (unbound : Unbound began later entry) :
    Retried (request, (operation.perform settings store).2) entry := by
  rcases asks with ⟨declares, _, _, chosen, _, asksFor⟩
  intro sameName
  rcases replied : (operation.perform settings store).2 with failure | reply
  · exact ⟨failure, rfl⟩
  · have absent := unbound _ (sameName ▸ asksFor.name)
    exact absurd absent
      (locationOf_ne_none_of_ok declares follows.present chosen replied laterPresent)

end Follows

theorem Follows.exists_asked {began registry : Registry}
    (follows : store.Follows reference recorder began registry) (turns : List Turn) :
    ∃ asked, Asked settings reference began store turns asked ∧
      (Turn.takeAll settings turns store).requestsOf recorder =
        store.requestsOf recorder ++ asked.map Prod.fst ∧
      asked.Pairwise Retried ∧ ∀ entry ∈ asked, Unbound began registry entry := by
  -- that requests are unbound is what tells a repeated one from those before it
  induction turns generalizing store registry with
  | nil => exact ⟨[], .nil store, by simp [Turn.takeAll], .nil, by simp⟩
  | cons turn rest ih =>
      rcases follows.take settings turn with ⟨later, laterFollows, names⟩
      rcases ih laterFollows with ⟨asked, further, requests, retried, unbound⟩
      have stillUnbound : ∀ entry ∈ asked, Unbound began registry entry :=
        fun entry entryMem name named => names name (unbound entry entryMem name named)
      cases turn with
      | behave => exact ⟨asked, .behave further, requests, retried, stillUnbound⟩
      | perform operation =>
          have noted := follows.requestsOf_perform settings operation
          have asksIff : ∀ request, operation.Asks settings reference began store request ↔
              (operation.attemptIn? settings reference store).bind Attempt.request = some request :=
            fun _ => Operation.asks_iff follows.present follows.request
          have requestsAfter : (Turn.takeAll settings (.perform operation :: rest) store).requestsOf
              recorder = (operation.perform settings store).1.requestsOf recorder ++
                asked.map Prod.fst := requests
          rcases requested : (operation.attemptIn? settings reference store).bind Attempt.request
            with _ | request
          · have silent : ∀ request, ¬operation.Asks settings reference began store request := by
              simp [asksIff, requested]
            refine ⟨asked, .silent silent further, ?_, retried, stillUnbound⟩
            rw [requestsAfter, noted, requested, Option.toList_none, List.append_nil]
          · have asks := (asksIff request).2 requested
            refine ⟨_, .asks asks further, ?_, List.pairwise_cons.2 ⟨?_, retried⟩,
              List.forall_mem_cons.2 ⟨follows.unbound_of_asks asks, stillUnbound⟩⟩
            · rw [requestsAfter, noted, requested, Option.toList_some, List.append_assoc,
                List.singleton_append, List.map_cons]
            · intro entry entryMem
              exact follows.retried_of_unbound asks laterFollows.present (unbound entry entryMem)

/--
What the materializer of a registry is asked, whatever happened before the registry is
created and happens afterwards, and however materializers behave meanwhile. The recorder of
the registry notes one request for each declaration in it that finds the registry open,
chooses a name that users may choose, and finds no earlier declaration of that name. The
requests stand in the order of the declarations, and there are no others. Each of them has the
keywords of its declaration in their order, with the canonical name for the chosen one, and
tells what the registry was created with, the rule class, and the version that was given or,
if none or an empty one was, that of the settings. If two requests have the same name, the
declaration of the earlier one has failed.
-/
theorem requests_of_run (settings : Settings) (earlier turns : List Turn)
    (id repoPrefix : String) (scope : Scope) (directories : Directories) (handler : Reference)
    (materializer : Materializer) (place : String) :
    let store := Turn.takeAll settings earlier .empty
    let reference := store.registries.next id
    let recorder := store.recorders.next place
    let created :=
      store.addRegistry id repoPrefix scope directories handler materializer (some place)
    let began : Registry :=
      ⟨repoPrefix, scope, directories, handler, materializer, some recorder, ∅, false⟩
    ∃ asked, Asked settings reference began created turns asked ∧
      (Turn.takeAll settings turns created).requestsOf recorder = asked.map Prod.fst ∧
      asked.Pairwise Retried := by
  intro store reference recorder created began
  have kept : store.RecordersKept := recordersKept_empty.takeAll earlier
  have follows : created.Follows reference recorder began began := {
    present := Table.get?_add_next store.registries id began
    request := rfl
    recording := rfl
    recorded := ⟨[], Table.get?_add_next store.recorders place []⟩
    alone := by
      intro other owner present recording
      by_cases here : other = reference
      · exact here
      · have before : store.registries.get? other = some owner := by
          rw [← present]
          exact (Table.get?_add_of_ne store.registries began here).symm
        rcases kept other owner recorder before recording with ⟨requests, found⟩
        rw [Table.get?_next] at found
        cases found }
  have nothing : created.requestsOf recorder = [] := by
    rw [requestsOf, show created.recorders.get? recorder = some [] from
      Table.get?_add_next store.recorders place []]
    rfl
  rcases follows.exists_asked turns with ⟨asked, run, requests, retried, _⟩
  rw [nothing] at requests
  exact ⟨asked, run, requests, retried⟩

/-- A name is asked for again after the materializer failed, but not after it made a rule. -/
example :
    let ruleClass : RuleClass := ⟨"archive", default, [], "", by decide⟩
    let created :=
      Store.empty.addRegistry "r" "ext+" default default default .schema (some "calls")
    let declare : Turn := .perform
      (.declare ⟨"r", 0⟩ (.ofList [("name", .text "a")]) ruleClass .builtin (some ""))
    let turns : List Turn :=
      [.behave ⟨"r", 0⟩ (.failing .emptyLabel), declare, .behave ⟨"r", 0⟩ .schema, declare, declare]
    ((Turn.takeAll .default turns created).requestsOf ⟨"calls", 0⟩).map (fun request =>
      (request.values.get? "name", request.semanticsVersion)) =
        [(some (.text "ext+a"), "1"), (some (.text "ext+a"), "1")] := by
  rfl

end Store

end ExternalRepos

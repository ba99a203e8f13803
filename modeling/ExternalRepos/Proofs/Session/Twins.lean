import ExternalRepos.Proofs.Registry.Twins
import ExternalRepos.Proofs.Session.Residue

/-!
# Runs under different prefixes

Two sessions hold twins under one reference, their contexts tell the same
positions, and their handlers are the same (`TwinsAt`). The same declarations are
made in both, directly or through contexts, each with whatever semantics version
is given or told there (`SameRequest`). Step by step the outcomes are the same,
except for the prefix that the error about the seal quotes, and the sessions
stay as they were said to be (`TwinsAt.perform`); so they do along a run
(`prefix_stays_hidden`).
-/

namespace ExternalRepos

theorem Registry.SameButPrefix.map {α β : Type} {leftPrefix rightPrefix : String}
    {left right : Except Error α} (same : SameButPrefix leftPrefix rightPrefix left right)
    (answer : α → β) :
    SameButPrefix leftPrefix rightPrefix (left.map answer) (right.map answer) := by
  rcases same with equal | ⟨leftSealed, rightSealed⟩
  · exact Or.inl (by rw [equal])
  · exact Or.inr ⟨by rw [leftSealed]; rfl, by rw [rightSealed]; rfl⟩

namespace Store

/-- Sessions with twins under a reference, contexts that tell the same, and the same handlers. -/
structure TwinsAt (reference : Reference) (leftRegistry rightRegistry : Registry)
    (left right : Store) : Prop where
  leftPresent : left.registries.get? reference = some leftRegistry
  rightPresent : right.registries.get? reference = some rightRegistry
  twins : leftRegistry.Twins rightRegistry
  callers : ∀ context, (left.contexts.get? context).map Context.caller =
    (right.contexts.get? context).map Context.caller
  handlers : left.handlers = right.handlers

/-- The same request to a registry, with whatever semantics versions. -/
inductive Operation.SameRequest (reference : Reference) : Operation → Operation → Prop
  | declare (values : OrderedMap Value) (ruleClass : RuleClass) (location : Location)
      (leftVersion rightVersion : Option String) :
      SameRequest reference (.declare reference values ruleClass location leftVersion)
        (.declare reference values ruleClass location rightVersion)
  | createRepo (context : Reference) (values : OrderedMap Value) (ruleClass : RuleClass)
      (location : Option Location) :
      SameRequest reference (.createRepo context reference values ruleClass location)
        (.createRepo context reference values ruleClass location)
  | sealRegistry : SameRequest reference (.sealRegistry reference) (.sealRegistry reference)

namespace TwinsAt

variable {reference : Reference} {leftRegistry rightRegistry : Registry} {left right : Store}
  {leftSettings rightSettings : Settings}

/-- The sessions after a request: the registries are twins that have kept their prefixes. -/
def Remain (reference : Reference) (leftRegistry rightRegistry : Registry) (left right : Store) :
    Prop :=
  ∃ leftLater rightLater, TwinsAt reference leftLater rightLater left right ∧
    leftLater.repoPrefix = leftRegistry.repoPrefix ∧
    rightLater.repoPrefix = rightRegistry.repoPrefix

theorem remain (twins : TwinsAt reference leftRegistry rightRegistry left right) :
    Remain reference leftRegistry rightRegistry left right :=
  ⟨leftRegistry, rightRegistry, twins, rfl, rfl⟩

theorem commit (twins : TwinsAt reference leftRegistry rightRegistry left right)
    {leftAttempt rightAttempt : Attempt}
    (registries : leftAttempt.registry.Twins rightAttempt.registry)
    (events : leftAttempt.events = rightAttempt.events) :
    TwinsAt reference leftAttempt.registry rightAttempt.registry
      (left.commit reference leftAttempt) (right.commit reference rightAttempt) where
  leftPresent := by simp [Table.get?_modify_self, twins.leftPresent]
  rightPresent := by simp [Table.get?_modify_self, twins.rightPresent]
  twins := registries
  callers := by simpa using twins.callers
  handlers := by
    simp only [Store.commit, Store.post, listeners, handlers_note, twins.handlers, events,
      registries.handler]

theorem declare (twins : TwinsAt reference leftRegistry rightRegistry left right)
    (values : OrderedMap Value) (ruleClass : RuleClass) (location : Location)
    (leftVersion rightVersion : Option String) :
    let first := left.declare leftSettings reference values ruleClass location leftVersion
    let second := right.declare rightSettings reference values ruleClass location rightVersion
    Remain reference leftRegistry rightRegistry first.1 second.1 ∧
      Registry.SameButPrefix leftRegistry.repoPrefix rightRegistry.repoPrefix first.2 second.2 := by
  rw [declare_of_get? twins.leftPresent, declare_of_get? twins.rightPresent]
  rcases twins.twins.declare values ruleClass location (leftSettings.chooseVersion leftVersion)
    (rightSettings.chooseVersion rightVersion) with ⟨events, registries, outcomes⟩
  refine ⟨⟨_, _, twins.commit registries events, ?_, ?_⟩, outcomes⟩
  · exact (leftRegistry.extends_declare values ruleClass location _).repoPrefix_eq
  · exact (rightRegistry.extends_declare values ruleClass location _).repoPrefix_eq

theorem perform (twins : TwinsAt reference leftRegistry rightRegistry left right)
    (leftSettings rightSettings : Settings) {first second : Operation}
    (same : Operation.SameRequest reference first second) :
    Remain reference leftRegistry rightRegistry (first.perform leftSettings left).1
        (second.perform rightSettings right).1 ∧
      Registry.SameButPrefix leftRegistry.repoPrefix rightRegistry.repoPrefix
        (first.perform leftSettings left).2 (second.perform rightSettings right).2 := by
  cases same with
  | declare values ruleClass location leftVersion rightVersion =>
      rcases twins.declare values ruleClass location leftVersion rightVersion with
        ⟨after, outcomes⟩
      exact ⟨after, outcomes.map Reply.declared⟩
  | createRepo context values ruleClass location =>
      have callers := twins.callers context
      rcases leftCaller : left.contexts.get? context with _ | leftContext
      · rcases rightCaller : right.contexts.get? context with _ | rightContext
        · simp only [Operation.perform, Store.createRepo, leftCaller, rightCaller]
          exact ⟨twins.remain, Or.inl rfl⟩
        · simp [leftCaller, rightCaller] at callers
      · rcases rightCaller : right.contexts.get? context with _ | rightContext
        · simp [leftCaller, rightCaller] at callers
        · have told : leftContext.caller = rightContext.caller := by
            simpa [leftCaller, rightCaller] using callers
          simp only [Operation.perform, createRepo_of_get? leftCaller,
            createRepo_of_get? rightCaller, told]
          rcases twins.declare values ruleClass (location.getD rightContext.caller)
            (some leftContext.semanticsVersion) (some rightContext.semanticsVersion) with
            ⟨after, outcomes⟩
          exact ⟨after, outcomes.map Reply.declared⟩
  | sealRegistry =>
      refine ⟨⟨leftRegistry.sealed, rightRegistry.sealed, ?_, rfl, rfl⟩, Or.inl rfl⟩
      exact {
        leftPresent := by
          simp [Operation.perform, Store.sealRegistry, Table.get?_modify_self, twins.leftPresent]
        rightPresent := by
          simp [Operation.perform, Store.sealRegistry, Table.get?_modify_self, twins.rightPresent]
        twins := twins.twins.sealed
        callers := twins.callers
        handlers := twins.handlers }

theorem runAll (twins : TwinsAt reference leftRegistry rightRegistry left right)
    (leftSettings rightSettings : Settings) {firsts seconds : List Operation}
    (same : List.Forall₂ (Operation.SameRequest reference) firsts seconds) :
    Remain reference leftRegistry rightRegistry (Operation.runAll leftSettings firsts left)
        (Operation.runAll rightSettings seconds right) ∧
      List.Forall₂ (Registry.SameButPrefix leftRegistry.repoPrefix rightRegistry.repoPrefix)
        ((Operation.history leftSettings firsts left).map Prod.snd)
        ((Operation.history rightSettings seconds right).map Prod.snd) := by
  induction same generalizing left right leftRegistry rightRegistry with
  | nil => exact ⟨twins.remain, .nil⟩
  | cons here _ ih =>
      rcases twins.perform leftSettings rightSettings here with
        ⟨⟨leftMiddle, rightMiddle, between, leftKept, rightKept⟩, outcome⟩
      rcases ih between with ⟨⟨leftLater, rightLater, after, leftSame, rightSame⟩, outcomes⟩
      rw [leftKept, rightKept] at outcomes
      refine ⟨⟨leftLater, rightLater, after, ?_, ?_⟩, .cons outcome outcomes⟩
      · rw [leftSame, leftKept]
      · rw [rightSame, rightKept]

end TwinsAt

/--
The prefix, the directories and the semantics versions stay hidden. Two registries
with the schema materializer that differ in nothing else answer the same requests in
the same way: with the same specification or the same error, except that the error
about the seal quotes the prefix. All handlers hold the same events afterwards, and
both registries hold the same specifications and locations.
-/
theorem Operation.prefix_stays_hidden (leftSettings rightSettings : Settings)
    {reference : Reference} {leftRegistry rightRegistry : Registry} {left right : Store}
    (twins : TwinsAt reference leftRegistry rightRegistry left right)
    {firsts seconds : List Operation} (same : List.Forall₂ (SameRequest reference) firsts seconds) :
    List.Forall₂ (Registry.SameButPrefix leftRegistry.repoPrefix rightRegistry.repoPrefix)
      ((history leftSettings firsts left).map Prod.snd)
      ((history rightSettings seconds right).map Prod.snd) ∧
    (runAll leftSettings firsts left).handlers = (runAll rightSettings seconds right).handlers ∧
    ∃ leftEnd rightEnd,
      (runAll leftSettings firsts left).registries.get? reference = some leftEnd ∧
      (runAll rightSettings seconds right).registries.get? reference = some rightEnd ∧
      leftEnd.extract = rightEnd.extract ∧ leftEnd.locationOf = rightEnd.locationOf := by
  rcases twins.runAll leftSettings rightSettings same with
    ⟨⟨leftEnd, rightEnd, ended, _, _⟩, outcomes⟩
  refine ⟨outcomes, ended.handlers, leftEnd, rightEnd, ended.leftPresent, ended.rightPresent,
    ?_, ?_⟩
  · rw [Registry.extract, Registry.extract, ended.twins.declarations]
  · funext name
    rw [Registry.locationOf, Registry.locationOf, ended.twins.declarations]

/-- A declaration with a label, the seal, and a declaration that comes too late. -/
theorem Operation.prefix_stays_hidden_of_seal :
    let ruleClass : RuleClass :=
      ⟨"archive", default, [⟨"patch", .label, .null, false, some "gone", ""⟩], "", by decide⟩
    let values : OrderedMap Value := .ofList [("name", .text "a"), ("patch", .text "//:a.patch")]
    let posted := (Store.empty.addHandler "events" []).handlers.next "events"
    let created (repoPrefix workspace : String) : Store :=
      (Store.empty.addHandler "events" []).addRegistry "r" repoPrefix default
        ⟨workspace, "out"⟩ posted .schema none
    let reference := Store.empty.registries.next "r"
    let requests (version : String) : List Operation :=
      [.declare reference values ruleClass .builtin (some version), .sealRegistry reference,
        .declare reference values ruleClass .builtin (some version)]
    List.Forall₂ (SameRequest reference) (requests "1.0") (requests "2.0") ∧
    List.Forall₂ (Registry.SameButPrefix "left+" "right+")
      ((history .default (requests "1.0") (created "left+" "/left")).map Prod.snd)
      ((history .default (requests "2.0") (created "right+" "/right")).map Prod.snd) := by
  intro ruleClass values posted created reference requests
  have same : List.Forall₂ (SameRequest reference) (requests "1.0") (requests "2.0") :=
    .cons (.declare ..) (.cons .sealRegistry (.cons (.declare ..) .nil))
  have twins : TwinsAt reference _ _ (created "left+" "/left") (created "right+" "/right") :=
    { leftPresent := rfl
      rightPresent := rfl
      twins := ⟨rfl, rfl, rfl, rfl, rfl, rfl⟩
      callers := fun _ => rfl
      handlers := rfl }
  exact ⟨same, (prefix_stays_hidden .default .default twins same).1⟩

end Store

end ExternalRepos

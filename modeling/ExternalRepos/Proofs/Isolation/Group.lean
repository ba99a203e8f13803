import ExternalRepos.Proofs.Isolation.Table
import ExternalRepos.Proofs.Session.Log

/-!
# Groups of objects

A group says which objects a program may use. Registries, contexts and recorders are
given by the identifiers under which they are created, vendor marks by those of their
contexts. Handlers are different, because every evaluation creates one under the same
identifier: a group says which handlers a program may name, and which of them it has is
a matter of the run.

A program of one group runs in two sessions, one that it shares with other programs and
one that it has to itself. Its handlers may have different addresses there, so the two
sessions are compared along links between these: `Matches` says that the group has the
same objects in both, up to the addresses of handlers, and that these objects lead to
each other only. `Advances` says what a run of the program makes of both sessions: new
links are for new handlers, and nothing has changed in the shared session but objects of
the group. What is done to all of the group keeps both; the lemmas below go through the
kinds of objects.
-/

namespace ExternalRepos

/-- The identifiers that a program may use, and whether it may evaluate extensions. -/
structure Group where
  registries : String → Prop
  contexts : String → Prop
  /-- The handlers that may be named. -/
  handlers : String → Prop
  recorders : String → Prop
  evaluates : Prop

/-- Which handlers of two sessions are the same. -/
abbrev Links := Reference → Reference → Prop

/-- A materializer that makes the same of a request whoever gets the events. -/
def Materializer.IgnoresHandler (materializer : Materializer) : Prop :=
  ∀ (request : Request) (handler : Reference),
    materializer { request with handler := handler } = materializer request

namespace Group

/-- The identifiers under which a program may create handlers. -/
def adds (group : Group) (id : String) : Prop :=
  group.handlers id ∨ group.evaluates ∧ id = Evaluation.handlerId

/-- The group with one more identifier of handlers that may be named. -/
def naming (group : Group) (id : String) : Group :=
  { group with handlers := fun place => group.handlers place ∨ place = id }

/-- Nothing that the first group may use is created by programs of the second. -/
structure Apart (group other : Group) : Prop where
  registries : ∀ id, group.registries id → ¬ other.registries id
  contexts : ∀ id, group.contexts id → ¬ other.contexts id
  handlers : ∀ id, group.handlers id → ¬ other.adds id
  recorders : ∀ id, group.recorders id → ¬ other.recorders id

/-- A registry of the group in two sessions: only the address of its handler may differ. -/
structure SameRegistry (recorders : String → Prop) (links : Links) (registry other : Registry) :
    Prop where
  equal : other = { registry with handler := other.handler }
  linked : links registry.handler other.handler
  ignoresHandler : registry.materializer.IgnoresHandler
  recorder : ∀ recorder, registry.recorder = some recorder → recorders recorder.id

/-- A context of the group in two sessions, leading to objects of the group. -/
structure SameContext (registries contexts : String → Prop) (context other : Context) : Prop where
  equal : context = other
  registry : ∀ registry, context.registry = some registry → registries registry.id
  vendor : ∀ vendor, context.vendor = some vendor → contexts vendor.id

/-- A noted request in two sessions: only the address of the handler may differ. -/
structure SameRequest (links : Links) (request other : Request) : Prop where
  equal : other = { request with handler := other.handler }
  linked : links request.handler other.handler

/-- A handler in two sessions: only the addresses of those it passes events on to may differ. -/
structure SameHandler (links : Links) (handler other : Handler) : Prop where
  events : handler.events = other.events
  forwards : List.Forall₂ links handler.forwards other.forwards

/-- The handlers of the group in two sessions, paired off by the links. -/
structure SameHandlers (named : String → Prop) (links : Links) (handlers others : Table Handler) :
    Prop where
  unique : ∀ {first second another other}, links first second → links another other →
    (first = another ↔ second = other)
  found : ∀ {reference other}, links reference other → ∃ handler another,
    handlers.get? reference = some handler ∧ others.get? other = some another ∧
      SameHandler links handler another
  current : ∀ id, named id →
    Option.Rel links (handlers.current? id) (others.current? id)

/--
The group has the same objects in both sessions, up to the addresses of handlers, and they
lead to objects of the group only.
-/
structure Matches (group : Group) (links : Links) (shared alone : Store) : Prop where
  registries : Table.Related group.registries (SameRegistry group.recorders links)
    shared.registries alone.registries
  contexts : Table.Related group.contexts (SameContext group.registries group.contexts)
    shared.contexts alone.contexts
  vendors : Table.Related group.contexts Eq shared.vendors alone.vendors
  recorders : Table.Related group.recorders (List.Forall₂ (SameRequest links)) shared.recorders
    alone.recorders
  handlers : SameHandlers group.handlers links shared.handlers alone.handlers

/-- Nothing has changed but objects of the group; `links` tells its handlers. -/
structure Keeps (group : Group) (links : Links) (before after : Store) : Prop where
  registries : Table.SameOutside group.registries before.registries after.registries
  contexts : Table.SameOutside group.contexts before.contexts after.contexts
  vendors : Table.SameOutside group.contexts before.vendors after.vendors
  recorders : Table.SameOutside group.recorders before.recorders after.recorders
  handlers : ∀ reference handler, before.handlers.get? reference = some handler →
    ∃ later, after.handlers.get? reference = some later ∧
      ((∀ other, ¬ links reference other) → later = handler)
  created : ∀ id, ¬ group.adds id →
    (after.handlers.objects id).length = (before.handlers.objects id).length

/-- What a run of a program of the group makes of two sessions. -/
structure Advances (group : Group) (links later : Links)
    (shared sharedAfter alone aloneAfter : Store) : Prop where
  widens : ∀ reference other, links reference other → later reference other
  fresh : ∀ reference other, later reference other →
    links reference other ∨ shared.handlers.get? reference = none
  complete : ∀ other, (aloneAfter.handlers.get? other).isSome →
    (alone.handlers.get? other).isSome ∨ ∃ reference, later reference other
  keeps : group.Keeps later shared sharedAfter

variable {group : Group} {links later last : Links} {shared alone before middle after : Store}

theorem SameRegistry.mono {recorders : String → Prop} {registry other : Registry}
    (same : SameRegistry recorders links registry other)
    (wider : ∀ reference another, links reference another → later reference another) :
    SameRegistry recorders later registry other :=
  { same with linked := wider _ _ same.linked }

theorem SameRequest.mono {request other : Request} (same : SameRequest links request other)
    (wider : ∀ reference another, links reference another → later reference another) :
    SameRequest later request other :=
  { same with linked := wider _ _ same.linked }

theorem SameHandler.mono {handler other : Handler} (same : SameHandler links handler other)
    (wider : ∀ reference another, links reference another → later reference another) :
    SameHandler later handler other :=
  { same with forwards := same.forwards.imp wider }

namespace Keeps

theorem refl (group : Group) (links : Links) (store : Store) : group.Keeps links store store where
  registries := .refl _ _
  contexts := .refl _ _
  vendors := .refl _ _
  recorders := .refl _ _
  handlers := fun _ handler found => ⟨handler, found, fun _ => rfl⟩
  created := fun _ _ => rfl

theorem trans (first : group.Keeps later before middle) (second : group.Keeps last middle after)
    (wider : ∀ reference other, later reference other → last reference other) :
    group.Keeps last before after where
  registries := first.registries.trans second.registries
  contexts := first.contexts.trans second.contexts
  vendors := first.vendors.trans second.vendors
  recorders := first.recorders.trans second.recorders
  handlers := by
    intro reference handler found
    rcases first.handlers reference handler found with ⟨between, betweenFound, firstSame⟩
    rcases second.handlers reference between betweenFound with ⟨final, finalFound, secondSame⟩
    refine ⟨final, finalFound, ?_⟩
    intro unlinked
    rw [secondSame unlinked, firstSame fun other linked => unlinked other (wider _ _ linked)]
  created := fun id outside => (second.created id outside).trans (first.created id outside)

end Keeps

namespace Advances

variable {sharedAfter aloneAfter sharedLast aloneLast : Store}

theorem refl (group : Group) (links : Links) (shared alone : Store) :
    group.Advances links links shared shared alone alone where
  widens := fun _ _ linked => linked
  fresh := fun _ _ linked => Or.inl linked
  complete := fun _ found => Or.inl found
  keeps := .refl group links shared

theorem trans (first : group.Advances links later shared sharedAfter alone aloneAfter)
    (second : group.Advances later last sharedAfter sharedLast aloneAfter aloneLast) :
    group.Advances links last shared sharedLast alone aloneLast where
  widens := fun reference other linked =>
    second.widens reference other (first.widens reference other linked)
  fresh := by
    intro reference other linked
    rcases second.fresh reference other linked with earlier | absent
    · exact first.fresh reference other earlier
    · refine Or.inr ?_
      rcases found : shared.handlers.get? reference with _ | handler
      · rfl
      · rcases first.keeps.handlers reference handler found with ⟨kept, keptFound, _⟩
        rw [absent] at keptFound
        cases keptFound
  complete := by
    intro other found
    rcases second.complete other found with earlier | linked
    · rcases first.complete other earlier with began | ⟨reference, linked⟩
      · exact Or.inl began
      · exact Or.inr ⟨reference, second.widens reference other linked⟩
    · exact Or.inr linked
  keeps := first.keeps.trans second.keeps second.widens

end Advances

end Group

end ExternalRepos

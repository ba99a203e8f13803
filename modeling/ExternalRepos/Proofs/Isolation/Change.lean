import ExternalRepos.Proofs.Isolation.Group

/-!
# Changing the objects of a group

What is done to an object of a group in both of two sessions leaves them with the same
objects of the group, and it is an advance of the group; there is one lemma for each
kind of objects that are changed, and one for each that are created. New links come with
new handlers only (`addHandler`). To post events is to change every handler that
listens, along the links (`post`).
-/

namespace ExternalRepos

/-- The links with one more. -/
def Links.adding (links : Links) (reference other : Reference) : Links := fun first second =>
  links first second ∨ first = reference ∧ second = other

namespace Group

/-- Both sessions after a change, with the same handlers as before. -/
def Follows (group : Group) (links : Links) (shared alone sharedAfter aloneAfter : Store) : Prop :=
  group.Matches links sharedAfter aloneAfter ∧
    group.Advances links links shared sharedAfter alone aloneAfter

/-- Both sessions after a run, in which handlers may have been created. -/
def Proceeds (group : Group) (links : Links) (shared alone sharedAfter aloneAfter : Store) : Prop :=
  ∃ later, group.Matches later sharedAfter aloneAfter ∧
    group.Advances links later shared sharedAfter alone aloneAfter

variable {group : Group} {links later : Links} {shared alone : Store}

namespace Follows

variable {sharedAfter aloneAfter sharedLast aloneLast : Store}

theorem trans (first : group.Follows links shared alone sharedAfter aloneAfter)
    (second : group.Follows links sharedAfter aloneAfter sharedLast aloneLast) :
    group.Follows links shared alone sharedLast aloneLast :=
  ⟨second.1, first.2.trans second.2⟩

theorem proceeds (follows : group.Follows links shared alone sharedAfter aloneAfter) :
    group.Proceeds links shared alone sharedAfter aloneAfter :=
  ⟨links, follows⟩

end Follows

theorem Advances.narrow {sharedAfter aloneAfter : Store} {id : String}
    (advances : (group.naming id).Advances links later shared sharedAfter alone aloneAfter)
    (mine : group.adds id) : group.Advances links later shared sharedAfter alone aloneAfter := by
  have created : ∀ place, ¬ group.adds place →
      (sharedAfter.handlers.objects place).length = (shared.handlers.objects place).length := by
    intro place outside
    apply advances.keeps.created
    rintro ((named | rfl) | evaluation)
    · exact outside (Or.inl named)
    · exact outside mine
    · exact outside (Or.inr evaluation)
  exact { advances with keeps := { advances.keeps with created := created } }

namespace Matches

theorem refl (same : group.Matches links shared alone) :
    group.Follows links shared alone shared alone :=
  ⟨same, .refl group links shared alone⟩

/-- A group in which fewer handlers may be named matches as well. -/
theorem narrow {id : String} (same : (group.naming id).Matches links shared alone) :
    group.Matches links shared alone :=
  { same with
    handlers := { same.handlers with
      current := fun place named => same.handlers.current place (Or.inl named) } }

theorem modifyRegistry (same : group.Matches links shared alone) {reference : Reference}
    (mine : group.registries reference.id) {change otherChange : Registry → Registry}
    (keeps : ∀ registry other, SameRegistry group.recorders links registry other →
      SameRegistry group.recorders links (change registry) (otherChange other)) :
    group.Follows links shared alone
      { shared with registries := shared.registries.modify reference change }
      { alone with registries := alone.registries.modify reference otherChange } where
  left := { same with registries := same.registries.modify reference keeps }
  right := { Advances.refl group links shared alone with
    keeps := { Keeps.refl group links shared with registries := .modify _ mine _ } }

theorem addRegistry (same : group.Matches links shared alone) {id : String}
    (mine : group.registries id) {registry other : Registry}
    (here : SameRegistry group.recorders links registry other) :
    group.Follows links shared alone
      { shared with registries := shared.registries.add id registry }
      { alone with registries := alone.registries.add id other } where
  left := { same with registries := same.registries.add id here }
  right := { Advances.refl group links shared alone with
    keeps := { Keeps.refl group links shared with registries := .add _ mine _ } }

theorem modifyContext (same : group.Matches links shared alone) {reference : Reference}
    (mine : group.contexts reference.id) {change : Context → Context}
    (keeps : ∀ context, SameContext group.registries group.contexts context context →
      SameContext group.registries group.contexts (change context) (change context)) :
    group.Follows links shared alone
      { shared with contexts := shared.contexts.modify reference change }
      { alone with contexts := alone.contexts.modify reference change } where
  left := by
    have each : ∀ context other, SameContext group.registries group.contexts context other →
        SameContext group.registries group.contexts (change context) (change other) := by
      intro context other here
      have equal := here.equal
      subst equal
      exact keeps context here
    exact { same with contexts := same.contexts.modify reference each }
  right := { Advances.refl group links shared alone with
    keeps := { Keeps.refl group links shared with contexts := .modify _ mine _ } }

theorem addContext (same : group.Matches links shared alone) {id : String}
    (mine : group.contexts id) {context : Context}
    (here : SameContext group.registries group.contexts context context) :
    group.Follows links shared alone (shared.addContext id context)
      (alone.addContext id context) where
  left := { same with contexts := same.contexts.add id here }
  right := { Advances.refl group links shared alone with
    keeps := { Keeps.refl group links shared with contexts := .add _ mine _ } }

theorem modifyVendor (same : group.Matches links shared alone) {reference : Reference}
    (mine : group.contexts reference.id) (change : VendorMarks → VendorMarks) :
    group.Follows links shared alone
      { shared with vendors := shared.vendors.modify reference change }
      { alone with vendors := alone.vendors.modify reference change } where
  left := { same with
    vendors := same.vendors.modify reference fun _ _ equal => congrArg change equal }
  right := { Advances.refl group links shared alone with
    keeps := { Keeps.refl group links shared with vendors := .modify _ mine _ } }

theorem addMarks (same : group.Matches links shared alone) {id : String}
    (mine : group.contexts id) (marks : VendorMarks) :
    group.Follows links shared alone { shared with vendors := shared.vendors.add id marks }
      { alone with vendors := alone.vendors.add id marks } where
  left := { same with vendors := same.vendors.add id rfl }
  right := { Advances.refl group links shared alone with
    keeps := { Keeps.refl group links shared with vendors := .add _ mine _ } }

theorem modifyRecorder (same : group.Matches links shared alone) {reference : Reference}
    (mine : group.recorders reference.id) {change otherChange : List Request → List Request}
    (keeps : ∀ noted others, List.Forall₂ (SameRequest links) noted others →
      List.Forall₂ (SameRequest links) (change noted) (otherChange others)) :
    group.Follows links shared alone
      { shared with recorders := shared.recorders.modify reference change }
      { alone with recorders := alone.recorders.modify reference otherChange } where
  left := { same with recorders := same.recorders.modify reference keeps }
  right := { Advances.refl group links shared alone with
    keeps := { Keeps.refl group links shared with recorders := .modify _ mine _ } }

theorem addRecorder (same : group.Matches links shared alone) {recorder : Option String}
    (mine : ∀ id, recorder = some id → group.recorders id) :
    group.Follows links shared alone (shared.addRecorder recorder)
      (alone.addRecorder recorder) := by
  rcases recorder with _ | id
  · exact same.refl
  · exact {
      left := { same with recorders := same.recorders.add id .nil }
      right := { Advances.refl group links shared alone with
        keeps := { Keeps.refl group links shared with recorders := .add _ (mine id rfl) _ } } }

/-! ## Handlers -/

theorem modifyHandler (same : group.Matches links shared alone) {reference other : Reference}
    (linked : links reference other) {change : Handler → Handler}
    (keeps : ∀ handler another, SameHandler links handler another →
      SameHandler links (change handler) (change another)) :
    group.Follows links shared alone
      { shared with handlers := shared.handlers.modify reference change }
      { alone with handlers := alone.handlers.modify other change } := by
  refine ⟨{ same with handlers := ?_ }, { Advances.refl group links shared alone with
    complete := ?_
    keeps := { Keeps.refl group links shared with handlers := ?_, created := ?_ } }⟩
  · refine ⟨same.handlers.unique, ?_, ?_⟩
    · intro place another here
      rcases same.handlers.found here with ⟨handler, kept, handlerFound, keptFound, alike⟩
      by_cases isIt : place = reference
      · have isOther : another = other := (same.handlers.unique here linked).1 isIt
        subst isIt
        subst isOther
        refine ⟨change handler, change kept, ?_, ?_, keeps handler kept alike⟩
        · rw [Table.get?_modify_self, handlerFound]
          rfl
        · rw [Table.get?_modify_self, keptFound]
          rfl
      · have isElse : another ≠ other := fun equal =>
          isIt ((same.handlers.unique here linked).2 equal)
        exact ⟨handler, kept, (Table.get?_modify_of_ne _ _ isIt).trans handlerFound,
          (Table.get?_modify_of_ne _ _ isElse).trans keptFound, alike⟩
    · intro id named
      rw [Table.current?_modify, Table.current?_modify]
      exact same.handlers.current id named
  · intro place found
    rw [Table.isSome_get?_modify] at found
    exact Or.inl found
  · intro place handler found
    by_cases isIt : place = reference
    · subst isIt
      refine ⟨change handler, ?_, fun unlinked => absurd linked (unlinked other)⟩
      rw [Table.get?_modify_self, found]
      rfl
    · exact ⟨handler, (Table.get?_modify_of_ne _ _ isIt).trans found, fun _ => rfl⟩
  · intro id _
    exact Table.length_objects_modify _ _ _ id

/-- Linked handlers pass events on to linked handlers. -/
theorem listeners (same : group.Matches links shared alone) {reference other : Reference}
    (linked : links reference other) :
    List.Forall₂ links (shared.listeners reference) (alone.listeners other) := by
  rcases same.handlers.found linked with ⟨handler, another, handlerFound, anotherFound, alike⟩
  simp only [Store.listeners, handlerFound, anotherFound]
  exact .cons linked alike.forwards

theorem post (same : group.Matches links shared alone) {reference other : Reference}
    (linked : links reference other) (events : List Event) :
    group.Follows links shared alone (shared.post reference events) (alone.post other events) := by
  have each : ∀ handler another, SameHandler links handler another →
      SameHandler links (handler.append events) (another.append events) := by
    intro handler another alike
    exact ⟨congrArg (· ++ events) alike.events, alike.forwards⟩
  have poured : ∀ {heard others : List Reference}, List.Forall₂ links heard others →
      ∀ {shared alone : Store}, group.Matches links shared alone →
        group.Follows links shared alone
          { shared with
            handlers := heard.foldl
              (fun table listener => table.modify listener (Handler.append events))
              shared.handlers }
          { alone with
            handlers := others.foldl
              (fun table listener => table.modify listener (Handler.append events))
              alone.handlers } := by
    intro heard others pairs
    induction pairs with
    | nil => exact fun same => same.refl
    | cons here _ ih =>
        intro shared alone same
        have first := same.modifyHandler here each
        exact first.trans (ih first.1)
  exact poured (same.listeners linked) same

theorem clearEvents (same : group.Matches links shared alone) {reference other : Reference}
    (linked : links reference other) :
    group.Follows links shared alone
      { shared with handlers := shared.handlers.modify reference Handler.clear }
      { alone with handlers := alone.handlers.modify other Handler.clear } := by
  apply same.modifyHandler linked
  intro handler another alike
  exact ⟨rfl, alike.forwards⟩

/-- A new handler is named by its identifier, and is the only new one in the group. -/
theorem addHandler (same : group.Matches links shared alone) {id : String} (mine : group.adds id)
    {forwards others : List Reference} (passed : List.Forall₂ links forwards others) :
    let later := Links.adding links (shared.handlers.next id) (alone.handlers.next id)
    (group.naming id).Matches later (shared.addHandler id forwards) (alone.addHandler id others) ∧
      group.Advances links later shared (shared.addHandler id forwards) alone
        (alone.addHandler id others) := by
  intro later
  have wider : ∀ reference other, links reference other → later reference other :=
    fun _ _ linked => Or.inl linked
  have begun : ∀ {reference other}, links reference other →
      reference ≠ shared.handlers.next id ∧ other ≠ alone.handlers.next id := by
    intro reference other linked
    rcases same.handlers.found linked with ⟨handler, another, handlerFound, anotherFound, _⟩
    exact ⟨Table.ne_next_of_get? handlerFound id, Table.ne_next_of_get? anotherFound id⟩
  refine ⟨?_, ?_⟩
  · exact {
      registries := same.registries.mono fun _ _ here => here.mono wider
      contexts := same.contexts
      vendors := same.vendors
      recorders := same.recorders.mono fun _ _ noted => noted.imp fun _ _ here => here.mono wider
      handlers := {
        unique := by
          intro first second another other here there
          rcases here with here | ⟨rfl, rfl⟩
          · rcases there with there | ⟨rfl, rfl⟩
            · exact same.handlers.unique here there
            · exact iff_of_false (begun here).1 (begun here).2
          · rcases there with there | ⟨rfl, rfl⟩
            · exact iff_of_false (begun there).1.symm (begun there).2.symm
            · exact iff_of_true rfl rfl
        found := by
          intro reference other linked
          rcases linked with linked | ⟨rfl, rfl⟩
          · rcases same.handlers.found linked with
              ⟨handler, another, handlerFound, anotherFound, alike⟩
            refine ⟨handler, another, ?_, ?_, alike.mono wider⟩
            · exact (Table.get?_add_of_ne _ _ (begun linked).1).trans handlerFound
            · exact (Table.get?_add_of_ne _ _ (begun linked).2).trans anotherFound
          · exact ⟨.create forwards, .create others, Table.get?_add_next _ _ _,
              Table.get?_add_next _ _ _, rfl, passed.imp wider⟩
        current := by
          intro place named
          by_cases here : place = id
          · subst here
            simp only [Store.addHandler, Table.current?_add]
            exact .some (Or.inr ⟨rfl, rfl⟩)
          · simp only [Store.addHandler, Table.current?_add_of_ne _ _ here]
            exact Table.rel_mono (same.handlers.current place (named.resolve_right here)) wider } }
  · exact {
      widens := wider
      fresh := by
        intro reference other linked
        rcases linked with linked | ⟨rfl, rfl⟩
        · exact Or.inl linked
        · exact Or.inr (Table.get?_next _ id)
      complete := by
        intro other found
        by_cases isNew : other = alone.handlers.next id
        · exact Or.inr ⟨_, Or.inr ⟨rfl, isNew⟩⟩
        · rw [Store.addHandler, Table.get?_add_of_ne _ _ isNew] at found
          exact Or.inl found
      keeps := { Keeps.refl group later shared with
        handlers := by
          intro reference handler found
          refine ⟨handler, ?_, fun _ => rfl⟩
          exact (Table.get?_add_of_ne _ _ (Table.ne_next_of_get? found id)).trans found
        created := by
          intro place outside
          have elsewhere : place ≠ id := by
            rintro rfl
            exact outside mine
          simp only [Store.addHandler, Table.objects_add, if_neg elsewhere] } }

end Matches

end Group

end ExternalRepos

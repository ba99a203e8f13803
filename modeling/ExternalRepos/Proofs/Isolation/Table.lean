import ExternalRepos.Session.Table
import Mathlib.Data.List.Forall2

/-!
# Parts of tables

A group of objects is a part of a table, given by identifiers. `Related` says that
two tables have the same part up to a relation between objects, and `SameOutside`
that a table has changed in one part at most. What is done in the same way to both
tables keeps the first, and what is done outside of the part to one of them does not
disturb it.
-/

namespace ExternalRepos.Table

variable {α : Type} {ids others : String → Prop} {related : α → α → Prop}
  {left right before after : Table α}

/-- Under these identifiers both tables have objects that are related one by one. -/
def Related (ids : String → Prop) (related : α → α → Prop) (left right : Table α) : Prop :=
  ∀ id, ids id → List.Forall₂ related (left.objects id) (right.objects id)

/-- Under all other identifiers the objects are what they were. -/
def SameOutside (ids : String → Prop) (before after : Table α) : Prop :=
  ∀ id, ¬ ids id → after.objects id = before.objects id

theorem getElem?_forall₂ {lefts rights : List α} (same : List.Forall₂ related lefts rights)
    (index : Nat) : Option.Rel related lefts[index]? rights[index]? := by
  induction same generalizing index with
  | nil => exact .none
  | cons here _ ih =>
      rcases index with _ | index
      · exact .some here
      · exact ih index

theorem modify_forall₂ {lefts rights : List α} (same : List.Forall₂ related lefts rights)
    {leftChange rightChange : α → α}
    (keeps : ∀ object other, related object other →
      related (leftChange object) (rightChange other)) (index : Nat) :
    List.Forall₂ related (lefts.modify index leftChange) (rights.modify index rightChange) := by
  induction same generalizing index with
  | nil => simp
  | cons here rest ih =>
      rcases index with _ | index
      · exact .cons (keeps _ _ here) rest
      · exact .cons here (ih index)

theorem rel_mono {wider : α → α → Prop} {found other : Option α}
    (same : Option.Rel related found other)
    (implies : ∀ object another, related object another → wider object another) :
    Option.Rel wider found other := by
  cases same with
  | none => exact .none
  | some here => exact .some (implies _ _ here)

namespace Related

theorem get?_cases (same : Related ids related left right) {reference : Reference}
    (mine : ids reference.id) :
    left.get? reference = none ∧ right.get? reference = none ∨
      ∃ object other, left.get? reference = some object ∧ right.get? reference = some other ∧
        related object other := by
  have here : Option.Rel related (left.get? reference) (right.get? reference) :=
    getElem?_forall₂ (same reference.id mine) reference.generation
  generalize left.get? reference = found at here ⊢
  generalize right.get? reference = another at here ⊢
  cases here with
  | none => exact Or.inl ⟨rfl, rfl⟩
  | some related => exact Or.inr ⟨_, _, rfl, rfl, related⟩

theorem length_eq (same : Related ids related left right) {id : String} (mine : ids id) :
    (left.objects id).length = (right.objects id).length :=
  (same id mine).length_eq

theorem current?_eq (same : Related ids related left right) {id : String} (mine : ids id) :
    left.current? id = right.current? id := by
  rw [current?, current?, same.length_eq mine]

theorem next_eq (same : Related ids related left right) {id : String} (mine : ids id) :
    left.next id = right.next id := by
  rw [next, next, same.length_eq mine]

theorem mono {wider : α → α → Prop} (same : Related ids related left right)
    (implies : ∀ object other, related object other → wider object other) :
    Related ids wider left right :=
  fun id mine => (same id mine).imp implies

theorem add (same : Related ids related left right) (id : String) {object other : α}
    (here : related object other) :
    Related ids related (left.add id object) (right.add id other) := by
  intro place mine
  rw [objects_add, objects_add]
  split
  · exact List.rel_append (same place mine) (.cons here .nil)
  · exact same place mine

theorem modify (same : Related ids related left right) (reference : Reference)
    {leftChange rightChange : α → α}
    (keeps : ∀ object other, related object other →
      related (leftChange object) (rightChange other)) :
    Related ids related (left.modify reference leftChange)
      (right.modify reference rightChange) := by
  intro place mine
  rw [objects_modify, objects_modify]
  split
  · exact modify_forall₂ (same place mine) keeps reference.generation
  · exact same place mine

/-- What happens to the first table outside of the part does not matter. -/
theorem of_sameOutside (same : Related ids related before right)
    (kept : SameOutside others before after) (apart : ∀ id, ids id → ¬ others id) :
    Related ids related after right := by
  intro id mine
  rw [kept id (apart id mine)]
  exact same id mine

end Related

namespace SameOutside

theorem refl (ids : String → Prop) (table : Table α) : SameOutside ids table table :=
  fun _ _ => rfl

theorem trans {middle : Table α} (first : SameOutside ids before middle)
    (second : SameOutside ids middle after) : SameOutside ids before after :=
  fun id outside => (second id outside).trans (first id outside)

theorem add (table : Table α) {id : String} (mine : ids id) (object : α) :
    SameOutside ids table (table.add id object) := by
  intro place outside
  have elsewhere : place ≠ id := by
    rintro rfl
    exact outside mine
  rw [objects_add, if_neg elsewhere]

theorem modify (table : Table α) {reference : Reference} (mine : ids reference.id)
    (change : α → α) : SameOutside ids table (table.modify reference change) := by
  intro place outside
  have elsewhere : place ≠ reference.id := by
    rintro rfl
    exact outside mine
  rw [objects_modify, if_neg elsewhere]

end SameOutside

/-! ## Addresses -/

theorem isSome_get?_modify (table : Table α) (reference other : Reference) (change : α → α) :
    ((table.modify reference change).get? other).isSome = (table.get? other).isSome := by
  by_cases here : other = reference
  · subst here
    rw [get?_modify_self, Option.isSome_map]
  · rw [get?_modify_of_ne _ _ here]

theorem current?_add_of_ne (table : Table α) {id place : String} (object : α)
    (elsewhere : place ≠ id) : (table.add id object).current? place = table.current? place := by
  rw [current?, current?, objects_add, if_neg elsewhere]

theorem id_of_current? {table : Table α} {id : String} {reference : Reference}
    (found : table.current? id = some reference) : reference.id = id := by
  unfold current? at found
  split at found
  · cases found
  · cases found
    rfl

end ExternalRepos.Table

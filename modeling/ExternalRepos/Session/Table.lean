import ExternalRepos.OrderedMap
import ExternalRepos.Reference

/-!
# Object tables

A table holds the objects of one kind. Under an identifier it keeps every
object that was ever created there, so that a reference stays good; the newest
one is current. Identifiers do not touch each other: what is added or changed
under one of them leaves the objects under all others alone
(`get?_add_of_ne`, `get?_modify_of_ne`).
-/

namespace ExternalRepos

/-- The objects of one kind, by identifier in the order of their creation. -/
structure Table (α : Type) where
  byId : OrderedMap (List α)

namespace Table

variable {α : Type}

/-- The table without objects. -/
def empty : Table α := ⟨∅⟩

/-- The objects created under an identifier, in order. -/
def objects (table : Table α) (id : String) : List α :=
  (table.byId.get? id).getD []

/-- The object of a reference. -/
def get? (table : Table α) (reference : Reference) : Option α :=
  (table.objects reference.id)[reference.generation]?

/-- The newest object under an identifier. -/
def current? (table : Table α) (id : String) : Option Reference :=
  match (table.objects id).length with
  | 0 => none
  | generation + 1 => some ⟨id, generation⟩

/-- The reference that the next object under an identifier gets. -/
def next (table : Table α) (id : String) : Reference :=
  ⟨id, (table.objects id).length⟩

/-- The table with one more object under an identifier. -/
def add (table : Table α) (id : String) (object : α) : Table α :=
  ⟨table.byId.insert id (table.objects id ++ [object])⟩

/-- The table with the object of a reference changed. -/
def modify (table : Table α) (reference : Reference) (change : α → α) : Table α :=
  match table.byId.get? reference.id with
  | none => table
  | some objects => ⟨table.byId.insert reference.id (objects.modify reference.generation change)⟩

@[simp]
theorem objects_add (table : Table α) (id other : String) (object : α) :
    (table.add id object).objects other =
      if other = id then table.objects other ++ [object] else table.objects other := by
  by_cases here : other = id
  · subst here
    simp [add, objects]
  · simp [add, objects, here]

@[simp]
theorem objects_modify (table : Table α) (reference : Reference) (change : α → α)
    (other : String) :
    (table.modify reference change).objects other =
      if other = reference.id then (table.objects other).modify reference.generation change
      else table.objects other := by
  by_cases here : other = reference.id
  · subst here
    rcases bound : table.byId.get? reference.id with _ | objects
    · simp [modify, objects, bound]
    · simp [modify, Table.objects, bound]
  · rcases bound : table.byId.get? reference.id with _ | objects
    · simp [modify, bound, here]
    · simp [modify, Table.objects, bound, here]

@[simp]
theorem length_objects_modify (table : Table α) (reference : Reference) (change : α → α)
    (id : String) :
    ((table.modify reference change).objects id).length = (table.objects id).length := by
  rw [objects_modify]
  split
  · rw [List.length_modify]
  · rfl

theorem current?_modify (table : Table α) (reference : Reference) (change : α → α)
    (id : String) : (table.modify reference change).current? id = table.current? id := by
  rw [current?, current?, length_objects_modify]

theorem get?_add_next (table : Table α) (id : String) (object : α) :
    (table.add id object).get? (table.next id) = some object := by
  simp [get?, next]

theorem current?_add (table : Table α) (id : String) (object : α) :
    (table.add id object).current? id = some (table.next id) := by
  simp [current?, next]

theorem get?_add_of_ne (table : Table α) {id : String} {reference : Reference} (object : α)
    (different : reference ≠ table.next id) :
    (table.add id object).get? reference = table.get? reference := by
  by_cases here : reference.id = id
  · subst here
    simp only [get?, objects_add, if_true]
    rw [List.getElem?_append]
    split
    · rfl
    · rename_i beyond
      have later : reference.generation ≠ (table.objects reference.id).length := fun equal =>
        different (by cases reference; simp_all [next])
      have past : (table.objects reference.id).length < reference.generation := by omega
      rw [List.getElem?_eq_none (by simp; omega), List.getElem?_eq_none (by omega)]
  · simp [get?, here]

theorem get?_modify_self (table : Table α) (reference : Reference) (change : α → α) :
    (table.modify reference change).get? reference = (table.get? reference).map change := by
  simp [get?]

theorem get?_modify_of_ne (table : Table α) {reference other : Reference} (change : α → α)
    (different : other ≠ reference) :
    (table.modify reference change).get? other = table.get? other := by
  by_cases here : other.id = reference.id
  · have apart : reference.generation ≠ other.generation := fun equal =>
      different (by cases other; cases reference; simp_all)
    simp [get?, here, apart]
  · simp [get?, here]

theorem modify_of_get? {table : Table α} {reference : Reference} {change : α → α} {object : α}
    (present : table.get? reference = some object) (unchanged : change object = object) :
    table.modify reference change = table := by
  rcases bound : table.byId.get? reference.id with _ | objects
  · simp [modify, bound]
  · have same : objects.modify reference.generation change = objects := by
      simp only [get?, Table.objects, bound, Option.getD_some] at present
      apply List.ext_getElem?
      intro index
      rw [List.getElem?_modify]
      by_cases here : reference.generation = index
      · subst here
        simp [present, unchanged]
      · simp [here]
    rw [modify, bound]
    simp only [same, OrderedMap.insert_of_get? bound]

end Table

end ExternalRepos

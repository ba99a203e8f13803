import ExternalRepos.Name
import ExternalRepos.OrderedMap

/-!
# Repository mappings

A module refers to other repositories by apparent names. Its mapping gives the
canonical name behind each of them; the empty apparent name is always the main
repository. Two mappings are equal when they have the same owner and bind the
same names, in whatever order, and `hashKey` is the part of a mapping that
decides this.
-/

namespace ExternalRepos

/-- The canonical names behind the apparent names that `owner` uses. -/
structure RepositoryMapping where
  entries : OrderedMap String
  owner : String
  deriving DecidableEq, Inhabited

namespace RepositoryMapping

/-- The owner of a mapping that names none. -/
def defaultOwner : String := "the main repository"

/-- The mapping without entries. -/
def empty : RepositoryMapping := ⟨∅, defaultOwner⟩

/-- The repository behind an apparent name, if the mapping has it; its name must be canonical. -/
def resolve? (mapping : RepositoryMapping) (apparent : String) :
    Except Error (Option RepositoryName) :=
  if apparent = "" then
    .ok (some .main)
  else
    match mapping.entries.get? apparent with
    | none => .ok none
    | some canonical => (RepositoryName.create canonical).map some

/-- Whether two mappings have the same owner and the same bindings in any order. -/
def equal (left right : RepositoryMapping) : Bool :=
  left.owner = right.owner && left.entries.size = right.entries.size &&
    left.entries.entries.all fun entry => right.entries.get? entry.1 = some entry.2

/-- The bindings in the order of their names, and the owner. -/
def hashKey (mapping : RepositoryMapping) : List (String × String) × String :=
  (mapping.entries.entries.mergeSort fun left right => decide (left.1 ≤ right.1), mapping.owner)

@[simp]
theorem resolve?_empty_name (mapping : RepositoryMapping) :
    mapping.resolve? "" = .ok (some .main) := by
  simp [resolve?]

end RepositoryMapping

end ExternalRepos

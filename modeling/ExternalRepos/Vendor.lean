import ExternalRepos.Name

/-!
# Vendoring

A vendor file marks canonical repositories: ignored ones are never vendored,
pinned ones are kept as they are on disk. The marks are sets; they are listed
in the order of their code points.
-/

namespace ExternalRepos

/-- The repositories that a vendor file has marked, by canonical name. -/
structure VendorMarks where
  ignored : List String
  pinned : List String
  deriving DecidableEq, Inhabited

namespace VendorMarks

/-- No marks. -/
def empty : VendorMarks := ⟨[], []⟩

/-- Adds a name unless it is there. -/
def addName (name : String) (names : List String) : List String :=
  if name ∈ names then names else names ++ [name]

@[simp]
theorem mem_addName {name other : String} {names : List String} :
    other ∈ addName name names ↔ other = name ∨ other ∈ names := by
  by_cases present : name ∈ names
  · simp only [addName, present, if_true]
    constructor
    · exact Or.inr
    · rintro (rfl | found)
      · exact present
      · exact found
  · simp [addName, present, or_comm]

theorem nodup_addName {name : String} {names : List String} (nodup : names.Nodup) :
    (addName name names).Nodup := by
  by_cases present : name ∈ names
  · simpa [addName, present] using nodup
  · simp only [addName, present, if_false, List.nodup_append]
    refine ⟨nodup, by simp, ?_⟩
    intro left leftMem right rightMem equal
    simp only [List.mem_singleton] at rightMem
    exact present (rightMem ▸ equal ▸ leftMem)

/-- Marks a repository that is never vendored. -/
def ignore (marks : VendorMarks) (repository : RepositoryName) : VendorMarks :=
  { marks with ignored := addName repository.name marks.ignored }

/-- Marks a repository that is kept as it is. -/
def pin (marks : VendorMarks) (repository : RepositoryName) : VendorMarks :=
  { marks with pinned := addName repository.name marks.pinned }

/-- Marked repositories in the order of their names. -/
def listed (names : List String) : List RepositoryName :=
  (names.mergeSort fun left right => decide (left ≤ right)).map RepositoryName.mk

/-- The repository that a vendor file names: by its canonical name after `@@`. -/
def repository (given : String) : Except Error RepositoryName :=
  match given.toList with
  | [] => .error .vendorNameMissing
  | '@' :: '@' :: name =>
      (RepositoryName.create (String.ofList name)).mapError .vendorNameInvalid
  | _ => .error .vendorNameNotCanonical

end VendorMarks

end ExternalRepos

import ExternalRepos.Error

/-!
# Repository names

A user chooses the name of a generated repository out of a narrow language:
ASCII letters, digits, `-`, `_` and `.`, with a letter in front. A canonical
name, which identifies a repository everywhere, may also hold the separator `+`
and start with any of these characters; the empty one is the main repository,
and the two names that would mean directories are excluded.
-/

namespace ExternalRepos

/-- The characters of user-provided names. -/
def isNameChar (char : Char) : Bool :=
  char.isAlphanum || char = '-' || char = '_' || char = '.'

/-- Whether users may choose a name for a repository. -/
def isUserProvided (name : String) : Bool :=
  match name.toList with
  | [] => false
  | first :: rest => first.isAlpha && rest.all isNameChar

/-- Rejects a name that users may not choose. -/
def checkUserProvided (name : String) : Except Error Unit :=
  if isUserProvided name then .ok () else .error (.invalidUserName name)

/-- The characters of canonical names. -/
def isCanonicalChar (char : Char) : Bool :=
  isNameChar char || char = '+'

/-- Whether a text is a canonical repository name. -/
def isCanonical (name : String) : Bool :=
  name ≠ "." && name ≠ ".." && name.toList.all isCanonicalChar

/-- A repository, by its canonical name; the empty name is the main repository. -/
structure RepositoryName where
  name : String
  deriving DecidableEq, Inhabited

namespace RepositoryName

/-- The main repository. -/
def main : RepositoryName := ⟨""⟩

/-- The repository of a canonical name. -/
def create (name : String) : Except Error RepositoryName :=
  if isCanonical name then .ok ⟨name⟩ else .error (.invalidRepository name)

/-- Whether this is the main repository. -/
def isMain (repository : RepositoryName) : Bool :=
  repository.name = ""

/-- The name with the mark of canonical names. -/
def written (repository : RepositoryName) : String :=
  "@@" ++ repository.name

theorem create_eq_ok_iff {name : String} {repository : RepositoryName} :
    create name = .ok repository ↔ isCanonical name = true ∧ repository = ⟨name⟩ := by
  by_cases canonical : isCanonical name = true
  · simp [create, canonical, eq_comm]
  · simp [create, canonical]

end RepositoryName

end ExternalRepos

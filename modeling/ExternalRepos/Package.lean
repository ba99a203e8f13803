import ExternalRepos.Name

/-!
# Packages

A package is a directory of a repository. Labels are read relative to one.
-/

namespace ExternalRepos

/-- A package of a repository; the empty package is the root directory. -/
structure PackageId where
  repository : RepositoryName
  package : String
  deriving DecidableEq, Inhabited

namespace PackageId

/-- The root directory of the main repository. -/
def root : PackageId := ⟨.main, ""⟩

/-- The package with its repository in front. -/
def written (packageId : PackageId) : String :=
  packageId.repository.written ++ "//" ++ packageId.package

end PackageId

end ExternalRepos

import ExternalRepos.Package

/-!
# Labels

A label names a target of a package. Its canonical form spells out repository,
package and target, so that it means the same from everywhere.
-/

namespace ExternalRepos

/-- A target of a package. -/
structure Label where
  packageId : PackageId
  name : String
  deriving DecidableEq, Inhabited

namespace Label

/-- The form of a label that means the same from everywhere. -/
def canonicalForm (label : Label) : String :=
  label.packageId.written ++ ":" ++ label.name

end Label

end ExternalRepos

import ExternalRepos.Label.Basic
import ExternalRepos.Mapping
import ExternalRepos.Text.Blank
import ExternalRepos.Text.Split

/-!
# Reading labels

A label is read relative to a package and through a repository mapping:

* `@@repo//package:target` names a repository canonically, `@repo//package:target`
  by an apparent name, and `//package:target` means the repository of the base;
* without `:target` the target is named like the last directory of the package;
* `@@repo` and `@repo` alone mean the target of that name in the root package;
* `:target` and `target` mean a target of the base package.

The repository part is checked and resolved first, then the package, then the
target, and the first failing check is reported.
-/

namespace ExternalRepos.Label

/-- Whether a text can be the package of a label. -/
def isPackageName (package : List Char) : Bool :=
  (package.all fun char => char ≠ ':' && char ≠ '@' && !Text.isAsciiBlank char) &&
    package.getLast? ≠ some '/'

/-- Whether a text can be the target of a label. -/
def isTargetName (target : List Char) : Bool :=
  !target.isEmpty && target.all fun char => char ≠ ':' && !Text.isBlank char

/-- The label of a package and a target, if both are well formed. -/
def ofParts (raw : String) (packageId : PackageId) (target : List Char) : Except Error Label :=
  if !isPackageName packageId.package.toList then
    .error (.invalidPackage raw)
  else if !isTargetName target then
    .error (.invalidTarget raw)
  else
    .ok ⟨packageId, String.ofList target⟩

/-- The label of the text after `//` in a repository. -/
def ofPath (raw : String) (repository : RepositoryName) (path : List Char) :
    Except Error Label :=
  match Text.splitOnce? [':'] path with
  | some (package, target) => ofParts raw ⟨repository, String.ofList package⟩ target
  | none => ofParts raw ⟨repository, String.ofList path⟩ (Text.afterLast '/' path)

/-- The label of a repository part and the text after the `//` that follows it, if one does. -/
def ofRepositoryPart (raw : String) (repository : RepositoryName) (part : List Char)
    (path : Option (List Char)) : Except Error Label :=
  match path with
  | some path => ofPath raw repository path
  | none =>
      if part.isEmpty then
        .error (.malformedLabel raw)
      else
        .ok ⟨⟨repository, ""⟩, String.ofList part⟩

/-- The text before the first `//`, and the text after it if there is one. -/
def cutAtPath (text : List Char) : List Char × Option (List Char) :=
  match Text.splitOnce? ['/', '/'] text with
  | some (part, path) => (part, some path)
  | none => (text, none)

/-- The repository that an apparent name stands for. -/
def visibleRepository (mapping : RepositoryMapping) (apparent : String) :
    Except Error RepositoryName := do
  let _ ← RepositoryName.create apparent
  match ← mapping.resolve? apparent with
  | some repository => .ok repository
  | none => .error (.notVisible apparent mapping.owner)

/-- Reads a label relative to a package, resolving apparent repository names. -/
def parse (raw : String) (base : PackageId) (mapping : RepositoryMapping) :
    Except Error Label :=
  match raw.toList with
  | [] => .error .emptyLabel
  | '@' :: '@' :: rest => do
      let (part, path) := cutAtPath rest
      let repository ← RepositoryName.create (String.ofList part)
      ofRepositoryPart raw repository part path
  | '@' :: rest => do
      let (part, path) := cutAtPath rest
      let repository ← visibleRepository mapping (String.ofList part)
      ofRepositoryPart raw repository part path
  | '/' :: '/' :: path => ofPath raw base.repository path
  | ':' :: target => ofParts raw base target
  | target => ofParts raw base target

end ExternalRepos.Label

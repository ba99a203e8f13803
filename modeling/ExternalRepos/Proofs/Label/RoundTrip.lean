import ExternalRepos.Proofs.Label.Grammar

/-!
# Canonical forms

The canonical form of a label that was read is itself a text of the grammar, one
that starts with `@@` and so depends neither on a package nor on a mapping. The
repository has no `/`, the package no `:` and no `/` at its end, and the target
no `:`, so the form is cut again where its three pieces were joined.
-/

namespace ExternalRepos.Label

/-- A label whose three pieces each belong to the grammar. -/
structure IsValid (label : Label) : Prop where
  repository : IsRepositoryText label.packageId.repository.name
  package : IsPackageText label.packageId.package
  target : IsTargetText label.name

variable {base : PackageId} {mapping : RepositoryMapping}

theorem Resolves.isRepositoryText {apparent repository : String}
    (resolves : Resolves mapping apparent repository) : IsRepositoryText repository := by
  cases resolves with
  | main => exact isCanonical_iff.1 (by decide)
  | entry _ _ valid => exact valid

theorem InRepository.isRepositoryText {opening : String} {repository : RepositoryName}
    (canonical : IsRepositoryText base.repository.name)
    (inside : InRepository base mapping opening repository) :
    IsRepositoryText repository.name := by
  cases inside with
  | canonical valid => exact valid
  | apparent _ resolves => exact resolves.isRepositoryText
  | base => exact canonical

/-- Whatever way a label is written, what it denotes has valid pieces. -/
theorem Denotes.isValid {raw : String} {label : Label}
    (canonical : IsRepositoryText base.repository.name) (denotes : Denotes base mapping raw label) :
    label.IsValid := by
  cases denotes with
  | canonical valid nonempty =>
      exact ⟨valid, isPackageText_empty, valid.isTargetText nonempty⟩
  | apparent valid nonempty resolves =>
      exact ⟨resolves.isRepositoryText, isPackageText_empty, valid.isTargetText nonempty⟩
  | target inside validPackage validTarget =>
      exact ⟨inside.isRepositoryText canonical, validPackage, validTarget⟩
  | package inside validPackage _ validTarget =>
      exact ⟨inside.isRepositoryText canonical, validPackage, validTarget⟩
  | marked validPackage validTarget => exact ⟨canonical, validPackage, validTarget⟩
  | plain validPackage validTarget _ _ => exact ⟨canonical, validPackage, validTarget⟩

/-- The canonical form of a valid label denotes the label from everywhere. -/
theorem IsValid.denotes {label : Label} (valid : label.IsValid) (base : PackageId)
    (mapping : RepositoryMapping) : Denotes base mapping label.canonicalForm label :=
  .target (.canonical valid.repository) valid.package valid.target

theorem IsValid.parse_canonicalForm {label : Label} (valid : label.IsValid) (base : PackageId)
    (mapping : RepositoryMapping) : parse label.canonicalForm base mapping = .ok label :=
  parse_of_denotes (valid.denotes base mapping)

/-- Valid labels with the same canonical form are the same, for it is read back in one way. -/
theorem IsValid.eq_of_canonicalForm {label other : Label} (valid : label.IsValid)
    (otherValid : other.IsValid) (same : label.canonicalForm = other.canonicalForm) :
    label = other := by
  have first := valid.parse_canonicalForm .root .empty
  have second := otherValid.parse_canonicalForm .root .empty
  rw [same, second] at first
  exact (Except.ok.inj first).symm

theorem isValid_of_parse {raw : String} {label : Label} {repository : RepositoryName}
    (canonical : RepositoryName.create base.repository.name = .ok repository)
    (parsed : parse raw base mapping = .ok label) : label.IsValid :=
  (denotes_of_parse parsed).isValid (repository_create_eq_ok_iff.1 canonical).1

/--
The canonical form of a label that was read in a package of a proper repository
is read back as the same label, in every package and through every mapping. So it
belongs to no other label that was read in this way.
-/
theorem parse_canonicalForm_of_parse {raw : String} {base : PackageId}
    {mapping : RepositoryMapping} {repository : RepositoryName} {label : Label}
    (canonical : RepositoryName.create base.repository.name = .ok repository)
    (parsed : parse raw base mapping = .ok label) :
    (∀ (otherBase : PackageId) (otherMapping : RepositoryMapping),
      parse label.canonicalForm otherBase otherMapping = .ok label) ∧
    ∀ (otherRaw : String) (otherBase : PackageId) (otherMapping : RepositoryMapping)
      (otherRepository : RepositoryName) (other : Label),
      RepositoryName.create otherBase.repository.name = .ok otherRepository →
      parse otherRaw otherBase otherMapping = .ok other →
      other.canonicalForm = label.canonicalForm → other = label := by
  have valid := isValid_of_parse canonical parsed
  constructor
  · intro otherBase otherMapping
    exact valid.parse_canonicalForm otherBase otherMapping
  · intro otherRaw otherBase otherMapping otherRepository other otherCanonical otherParsed same
    have otherValid := isValid_of_parse otherCanonical otherParsed
    exact otherValid.eq_of_canonicalForm valid same

/-- A package that starts with `/` and a target with `//` and `@` in it. -/
theorem parse_canonicalForm_of_slashes :
    parse "///a:b//@c" .root .empty = .ok ⟨⟨.main, "/a"⟩, "b//@c"⟩ ∧
    ∀ (otherBase : PackageId) (otherMapping : RepositoryMapping),
      parse "@@///a:b//@c" otherBase otherMapping = .ok ⟨⟨.main, "/a"⟩, "b//@c"⟩ := by
  have canonical : RepositoryName.create PackageId.root.repository.name = .ok .main := rfl
  have parsed : parse "///a:b//@c" .root .empty = .ok ⟨⟨.main, "/a"⟩, "b//@c"⟩ := rfl
  exact ⟨parsed, (parse_canonicalForm_of_parse canonical parsed).1⟩

end ExternalRepos.Label

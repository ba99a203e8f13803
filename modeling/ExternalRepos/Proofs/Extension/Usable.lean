import ExternalRepos.Proofs.Extension.CanonicalName
import ExternalRepos.Proofs.Label.Grammar
import ExternalRepos.Proofs.Session.Diagnostics
import ExternalRepos.Proofs.Vendor.Calls

/-!
# Canonical names are usable

The canonical name of a generated repository is put together by the extension, and it is
read by others: as the name of a repository, in labels, and in vendor files. Each of them
has a check of its own, and a name that is made of the characters of repository names
passes them all if it is none of the texts that are excluded. No prefix can make it one
of these, because the name that was chosen has a letter in it.
-/

namespace ExternalRepos

/-- A text that is read as the name of one repository wherever a canonical name is read. -/
structure IsUsable (name : String) : Prop where
  created : RepositoryName.create name = .ok ⟨name⟩
  /-- In front of a package and a target it names the repository of a label. -/
  target : ∀ base mapping package target, Label.IsPackageText package →
    Label.IsTargetText target →
      Label.parse ("@@" ++ name ++ "//" ++ package ++ ":" ++ target) base mapping =
        .ok ⟨⟨⟨name⟩, package⟩, target⟩
  /-- By itself it also names the target. -/
  alone : ∀ base mapping,
    Label.parse ("@@" ++ name) base mapping = .ok ⟨⟨⟨name⟩, ""⟩, name⟩
  /-- A call in a vendor file marks this repository and leaves all other marks as they are. -/
  marked : ∀ (environment : Environment) (store : Store) context vendor marks,
    store.Marking context vendor marks → ∀ mark, ∃ left,
      let ran := Step.run environment (VendorCall.step context ⟨mark, "@@" ++ name⟩) store
      ran.failure = none ∧ ran.store.Marking context vendor left ∧
      ∀ other marked, marked ∈ left.names other ↔
        (other = mark ∧ marked = name) ∨ marked ∈ marks.names other

/-- What is read as the name of a repository, and not as that of the main one, is usable. -/
theorem isUsable_of_isRepositoryText {name : String} (valid : Label.IsRepositoryText name)
    (nonempty : name ≠ "") : IsUsable name where
  created := Label.repository_create_eq_ok_iff.2 ⟨valid, rfl⟩
  target _ _ _ _ validPackage validTarget :=
    Label.parse_of_denotes (.target (.canonical valid) validPackage validTarget)
  alone _ _ := Label.parse_of_denotes (.canonical valid nonempty)
  marked environment store context vendor marks marking mark := by
    have accepted : VendorMarks.repository ("@@" ++ name) = .ok ⟨name⟩ := by
      rw [VendorMarks.repository_append, Label.repository_create_eq_ok_iff.2 ⟨valid, rfl⟩]
      rfl
    refine ⟨VendorMarks.add mark marks ⟨name⟩, ?_⟩
    rw [marking.run_step environment ⟨mark, "@@" ++ name⟩, accepted]
    exact ⟨rfl, marking.modify fun marks => VendorMarks.add mark marks ⟨name⟩,
      fun other marked => VendorMarks.mem_names_add⟩

/-! ## Generated names -/

theorem NameChar.repositoryChar {char : Char} (valid : NameChar char) :
    Label.RepositoryChar char := by
  rw [← Label.isCanonicalChar_iff, isCanonicalChar, isNameChar_iff.2 valid, Bool.true_or]

theorem exists_letter_of_isUserProvided {name : String} (allowed : isUserProvided name = true) :
    ∃ letter ∈ name.toList, letter.isAlpha = true := by
  unfold isUserProvided at allowed
  split at allowed
  · cases allowed
  · rename_i first rest chars
    rw [Bool.and_eq_true] at allowed
    exact ⟨first, by rw [chars]; exact List.mem_cons_self, allowed.1⟩

theorem isUsable_append {front name : String}
    (valid : ∀ char ∈ front.toList, Label.RepositoryChar char)
    (allowed : isUserProvided name = true) : IsUsable (front ++ name) := by
  rcases exists_letter_of_isUserProvided allowed with ⟨letter, letterMem, isLetter⟩
  -- The excluded texts have no letter in them.
  have different : ∀ excluded : String, (∀ char ∈ excluded.toList, char.isAlpha = false) →
      front ++ name ≠ excluded := by
    rintro _ noLetter rfl
    have notLetter := noLetter letter (by simp [letterMem])
    rw [isLetter] at notLetter
    cases notLetter
  apply isUsable_of_isRepositoryText
  · refine ⟨?_, different "." (by simp), different ".." (by simp)⟩
    rw [String.toList_append, List.forall_mem_append]
    exact ⟨valid, fun char charMem => (nameChar_of_mem allowed charMem).repositoryChar⟩
  · exact different "" (by simp)

theorem ModuleExtension.repositoryChar_of_mem_repoPrefix {module extension separator : String}
    (moduleChars : ∀ char ∈ module.toList, Label.RepositoryChar char)
    (extensionChars : ∀ char ∈ extension.toList, Label.RepositoryChar char)
    (separatorChars : ∀ char ∈ separator.toList, Label.RepositoryChar char) :
    ∀ char ∈ (repoPrefix module extension separator).toList, Label.RepositoryChar char := by
  simp only [repoPrefix, String.toList_append, List.forall_mem_append]
  exact ⟨⟨⟨⟨moduleChars, separatorChars⟩, separatorChars⟩, extensionChars⟩, separatorChars⟩

namespace Evaluation

variable {evaluation : Evaluation} {settings : Settings} {materializer : Materializer}
  {forwards : List Reference} {store : Store} {program : Program} {result : EvaluationResult}
  {name : String}

theorem isUserProvided_of_mem_keys
    (gave : (evaluation.run settings materializer forwards store (program.run settings)).2 =
      .ok result)
    (generated : name ∈ result.repos.keys) : isUserProvided name = true := by
  let entered := evaluation.enter settings materializer forwards store
  rcases evaluation.exists_registry_enter settings materializer forwards store with
    ⟨began, beganPresent, empty, _⟩
  rcases Store.Operation.exists_extends_runAll settings beganPresent
    (program.history settings entered.store) with ⟨registry, present, extension⟩
  rw [← program.store_run] at present
  have holds := extension.holds empty
  have repos : result.repos = registry.extract := by
    rw [evaluation.result_eq_of_run_eq_ok settings materializer forwards store gave]
    show ((_ : Option Registry).map Registry.extract).getD ∅ = _
    rw [present]
    rfl
  rw [repos, OrderedMap.keys, holds.extract, List.map_map] at generated
  rcases List.mem_map.1 generated with ⟨entry, entryMem, rfl⟩
  exact holds.userProvided entry entryMem

/--
Generated canonical names are usable. If the names of module and extension and the
separator are made of the characters of repository names, then the canonical name of
every repository that an evaluation generates is read as the name of this repository, in
labels and by vendor files as well, whatever the implementation of the extension does.
-/
theorem isUsable_canonicalName
    (moduleChars : ∀ char ∈ evaluation.module.toList, Label.RepositoryChar char)
    (extensionChars : ∀ char ∈ evaluation.name.toList, Label.RepositoryChar char)
    (separatorChars : ∀ char ∈ settings.repoNameSeparator.toList, Label.RepositoryChar char)
    (gave : (evaluation.run settings materializer forwards store (program.run settings)).2 =
      .ok result)
    (generated : name ∈ result.repos.keys) : IsUsable (result.canonicalName name) := by
  have behind : result.canonicalName name = evaluation.repoPrefix settings ++ name := by
    rw [evaluation.result_eq_of_run_eq_ok settings materializer forwards store gave]
    rfl
  rw [behind]
  exact isUsable_append
    (ModuleExtension.repositoryChar_of_mem_repoPrefix moduleChars extensionChars separatorChars)
    (isUserProvided_of_mem_keys gave generated)

/-- A prefix of dots alone. -/
theorem isUsable_canonicalName_of_dots :
    let settings : Settings := { Settings.default with repoNameSeparator := "." }
    let evaluation : Evaluation := ⟨".", "..", default, none, none, none, "ctx", "r"⟩
    let ruleClass : RuleClass := ⟨"archive", default, [], "", by decide⟩
    let named : OrderedMap Value := .ofList [("name", .text "a.")]
    let entered := evaluation.enter settings .schema [] .empty
    let program := Program.perform (.declare entered.registry named ruleClass .builtin none)
      fun _ => .finish (.ok ())
    (∀ char ∈ evaluation.module.toList, Label.RepositoryChar char) ∧
    (∀ char ∈ evaluation.name.toList, Label.RepositoryChar char) ∧
    (∀ char ∈ settings.repoNameSeparator.toList, Label.RepositoryChar char) ∧
    ∃ result, (evaluation.run settings .schema [] .empty (program.run settings)).2 = .ok result ∧
      "a." ∈ result.repos.keys ∧ result.canonicalName "a." = "......a." ∧ IsUsable "......a." := by
  intro settings evaluation ruleClass named entered program
  have dots : ∀ text ∈ [".", ".."], ∀ char ∈ text.toList, Label.RepositoryChar char := by
    simp [Label.RepositoryChar]
  refine ⟨dots "." (by simp), dots ".." (by simp), dots "." (by simp), _, rfl, ?_, rfl, ?_⟩
  · exact List.mem_singleton.2 rfl
  · exact isUsable_canonicalName (dots "." (by simp)) (dots ".." (by simp)) (dots "." (by simp))
      (rfl : (evaluation.run settings .schema [] .empty (program.run settings)).2 = .ok _)
      (List.mem_singleton.2 rfl)

end Evaluation

end ExternalRepos

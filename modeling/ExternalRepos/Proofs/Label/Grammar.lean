import ExternalRepos.Label.Parser
import ExternalRepos.Proofs.Text.Split

/-!
# The grammar of labels

`Denotes` is the grammar of labels by itself: it says which texts are labels and
what they denote, with its own account of names and characters and without any
splitting. The reader of labels is sound for it (`denotes_of_parse`) and
complete (`parse_of_denotes`). What is rejected is rejected for its syntax, but
for an apparent name that is well formed and not visible (`Hidden`).
-/

namespace ExternalRepos.Label

/-- The characters of repository names. -/
def RepositoryChar (char : Char) : Prop :=
  ('A' ≤ char ∧ char ≤ 'Z') ∨ ('a' ≤ char ∧ char ≤ 'z') ∨ ('0' ≤ char ∧ char ≤ '9') ∨
    char ∈ ['-', '_', '.', '+']

/-- The code points of the characters that separate words. -/
def wordSeparators : List Nat :=
  [0x09, 0x0a, 0x0b, 0x0c, 0x0d, 0x1c, 0x1d, 0x1e, 0x1f, 0x20, 0x85, 0xa0, 0x1680, 0x2000, 0x2001,
    0x2002, 0x2003, 0x2004, 0x2005, 0x2006, 0x2007, 0x2008, 0x2009, 0x200a, 0x2028, 0x2029, 0x202f,
    0x205f, 0x3000]

/-- The names of repositories. -/
structure IsRepositoryText (name : String) : Prop where
  chars : ∀ char ∈ name.toList, RepositoryChar char
  ne_dot : name ≠ "."
  ne_dots : name ≠ ".."

/-- The packages of labels. -/
structure IsPackageText (package : String) : Prop where
  chars : ∀ char ∈ package.toList,
    char ∉ [':', '@', ' ', '\t', '\n', '\r', '\x0c', '\x0b']
  ends : ∀ front, package ≠ front ++ "/"

/-- The targets of labels. -/
structure IsTargetText (target : String) : Prop where
  nonempty : target ≠ ""
  chars : ∀ char ∈ target.toList, char ≠ ':' ∧ char.toNat ∉ wordSeparators

/-- The repository that an apparent name stands for. -/
inductive Resolves (mapping : RepositoryMapping) : String → String → Prop
  | main : Resolves mapping "" ""
  | entry {apparent repository : String} (nonempty : apparent ≠ "")
      (bound : mapping.entries.get? apparent = some repository)
      (valid : IsRepositoryText repository) : Resolves mapping apparent repository

/-- What stands in front of `//` and the repository that it means. -/
inductive InRepository (base : PackageId) (mapping : RepositoryMapping) :
    String → RepositoryName → Prop
  | canonical {repository : String} (valid : IsRepositoryText repository) :
      InRepository base mapping ("@@" ++ repository) ⟨repository⟩
  | apparent {apparent repository : String} (valid : IsRepositoryText apparent)
      (resolves : Resolves mapping apparent repository) :
      InRepository base mapping ("@" ++ apparent) ⟨repository⟩
  | base : InRepository base mapping "" base.repository

/-- The text after the last `/` of a package. -/
inductive IsLastSegment : (package segment : String) → Prop
  | whole {segment : String} (plain : '/' ∉ segment.toList) : IsLastSegment segment segment
  | after {front segment : String} (plain : '/' ∉ segment.toList) :
      IsLastSegment (front ++ "/" ++ segment) segment

/-- The labels that texts denote in a package whose module has a mapping. -/
inductive Denotes (base : PackageId) (mapping : RepositoryMapping) : String → Label → Prop
  | canonical {repository : String} (valid : IsRepositoryText repository)
      (nonempty : repository ≠ "") :
      Denotes base mapping ("@@" ++ repository) ⟨⟨⟨repository⟩, ""⟩, repository⟩
  | apparent {apparent repository : String} (valid : IsRepositoryText apparent)
      (nonempty : apparent ≠ "") (resolves : Resolves mapping apparent repository) :
      Denotes base mapping ("@" ++ apparent) ⟨⟨⟨repository⟩, ""⟩, apparent⟩
  | target {opening package target : String} {repository : RepositoryName}
      (inside : InRepository base mapping opening repository)
      (validPackage : IsPackageText package) (validTarget : IsTargetText target) :
      Denotes base mapping (opening ++ "//" ++ package ++ ":" ++ target)
        ⟨⟨repository, package⟩, target⟩
  | package {opening package target : String} {repository : RepositoryName}
      (inside : InRepository base mapping opening repository)
      (validPackage : IsPackageText package) (last : IsLastSegment package target)
      (validTarget : IsTargetText target) :
      Denotes base mapping (opening ++ "//" ++ package) ⟨⟨repository, package⟩, target⟩
  | marked {target : String} (validPackage : IsPackageText base.package)
      (validTarget : IsTargetText target) :
      Denotes base mapping (":" ++ target) ⟨base, target⟩
  | plain {target : String} (validPackage : IsPackageText base.package)
      (validTarget : IsTargetText target) (noRepository : ∀ rest, target ≠ "@" ++ rest)
      (noPath : ∀ rest, target ≠ "//" ++ rest) :
      Denotes base mapping target ⟨base, target⟩

/-- A text whose apparent repository name is well formed, but not visible. -/
inductive Hidden (mapping : RepositoryMapping) (apparent : String) : String → Prop
  | alone (valid : IsRepositoryText apparent) (nonempty : apparent ≠ "")
      (unbound : mapping.entries.get? apparent = none) : Hidden mapping apparent ("@" ++ apparent)
  | path {path : String} (valid : IsRepositoryText apparent) (nonempty : apparent ≠ "")
      (unbound : mapping.entries.get? apparent = none) :
      Hidden mapping apparent ("@" ++ apparent ++ "//" ++ path)

/-- The errors about the syntax of labels and of repository names. -/
def IsSyntaxError : Error → Prop
  | .emptyLabel | .malformedLabel _ | .invalidPackage _ | .invalidTarget _
  | .invalidRepository _ => True
  | _ => False

theorem IsSyntaxError.kind {failure : Error} (syntaxError : IsSyntaxError failure) :
    failure.kind = .labelSyntax := by
  cases failure <;> trivial

/-! ## Characters and names -/

theorem isCanonicalChar_iff {char : Char} : isCanonicalChar char = true ↔ RepositoryChar char := by
  simp only [isCanonicalChar, isNameChar, Char.isAlphanum]
  delta Char.isAlpha Char.isUpper Char.isLower
  simp only [Char.isDigit, Bool.or_eq_true, Bool.and_eq_true, decide_eq_true_eq, RepositoryChar,
    List.mem_cons, List.not_mem_nil, or_false, Char.le_def, ge_iff_le, or_assoc]

theorem isCanonical_iff {name : String} : isCanonical name = true ↔ IsRepositoryText name := by
  simp only [isCanonical, Bool.and_eq_true, decide_eq_true_eq, List.all_eq_true,
    isCanonicalChar_iff]
  constructor
  · rintro ⟨⟨ne_dot, ne_dots⟩, chars⟩
    exact ⟨chars, ne_dot, ne_dots⟩
  · rintro ⟨chars, ne_dot, ne_dots⟩
    exact ⟨⟨ne_dot, ne_dots⟩, chars⟩

theorem isBlank_iff {char : Char} :
    Text.isBlank char = true ↔ char.toNat ∈ wordSeparators := by
  simp only [Text.isBlank, Text.isAsciiBlank, wordSeparators, Bool.or_eq_true, Bool.and_eq_true,
    decide_eq_true_eq, List.contains_eq_mem, List.mem_cons, List.not_mem_nil, or_false]
  omega

theorem packageChar_iff {char : Char} :
    (char ≠ ':' && char ≠ '@' && !Text.isAsciiBlank char) = true ↔
      char ∉ [':', '@', ' ', '\t', '\n', '\r', '\x0c', '\x0b'] := by
  simp only [Text.isAsciiBlank, Bool.and_eq_true, decide_eq_true_eq, Bool.not_eq_true',
    Bool.or_eq_false_iff, Bool.and_eq_false_iff, decide_eq_false_iff_not, List.mem_cons,
    List.not_mem_nil, or_false, ne_eq, ← Char.toNat_inj, Char.reduceToNat]
  omega

theorem eq_append_ofList {text opening : String} {rest : List Char}
    (chars : text.toList = opening.toList ++ rest) : text = opening ++ String.ofList rest := by
  rw [← String.toList_inj, chars, String.toList_append, String.toList_ofList]

theorem getLast?_eq_some_iff {text : String} {char : Char} :
    text.toList.getLast? = some char ↔ ∃ front, text = front ++ String.ofList [char] := by
  rw [List.getLast?_eq_some_iff]
  constructor
  · rintro ⟨front, chars⟩
    refine ⟨String.ofList front, ?_⟩
    exact eq_append_ofList (by rw [chars, String.toList_ofList])
  · rintro ⟨front, rfl⟩
    exact ⟨front.toList, by rw [String.toList_append, String.toList_ofList]⟩

theorem isPackageName_iff {package : String} :
    isPackageName package.toList = true ↔ IsPackageText package := by
  rw [isPackageName, Bool.and_eq_true, List.all_eq_true, decide_eq_true_eq, ne_eq,
    getLast?_eq_some_iff, not_exists]
  constructor
  · rintro ⟨chars, ends⟩
    exact ⟨fun char member => packageChar_iff.1 (chars char member), ends⟩
  · rintro ⟨chars, ends⟩
    exact ⟨fun char member => packageChar_iff.2 (chars char member), ends⟩

theorem isEmpty_toList_eq_false_iff {text : String} :
    text.toList.isEmpty = false ↔ text ≠ "" := by
  rw [List.isEmpty_eq_false_iff, ne_eq, String.toList_eq_nil_iff]

theorem isTargetName_iff {target : String} :
    isTargetName target.toList = true ↔ IsTargetText target := by
  rw [isTargetName, Bool.and_eq_true, Bool.not_eq_true', isEmpty_toList_eq_false_iff,
    List.all_eq_true]
  simp only [Bool.and_eq_true, decide_eq_true_eq, Bool.not_eq_true', ← Bool.not_eq_true,
    isBlank_iff]
  constructor
  · rintro ⟨some, chars⟩
    exact ⟨some, chars⟩
  · rintro ⟨some, chars⟩
    exact ⟨some, chars⟩

/-- Where the characters of repository names are, and three marks that are not among them. -/
theorem RepositoryChar.toNat_bounds {char : Char} (valid : RepositoryChar char) :
    0x2b ≤ char.toNat ∧ char.toNat ≤ 0x7a ∧
      char.toNat ≠ '/'.toNat ∧ char.toNat ≠ ':'.toNat ∧ char.toNat ≠ '@'.toNat := by
  simp only [RepositoryChar, Char.le_def, UInt32.le_iff_toNat_le, List.mem_cons,
    List.not_mem_nil, or_false] at valid
  rcases valid with upper | lower | digit | rfl | rfl | rfl | rfl
  · change 65 ≤ char.toNat ∧ char.toNat ≤ 90 at upper
    simp only [Char.reduceToNat]
    omega
  · change 97 ≤ char.toNat ∧ char.toNat ≤ 122 at lower
    simp only [Char.reduceToNat]
    omega
  · change 48 ≤ char.toNat ∧ char.toNat ≤ 57 at digit
    simp only [Char.reduceToNat]
    omega
  all_goals decide

namespace IsRepositoryText

variable {name : String}

theorem slash_not_mem (valid : IsRepositoryText name) : '/' ∉ name.toList := fun member =>
  (valid.chars '/' member).toNat_bounds.2.2.1 rfl

theorem at_not_mem (valid : IsRepositoryText name) : '@' ∉ name.toList := fun member =>
  (valid.chars '@' member).toNat_bounds.2.2.2.2 rfl

theorem ne_at_cons (valid : IsRepositoryText name) (rest : List Char) :
    name.toList ≠ '@' :: rest := fun equal => valid.at_not_mem (by simp [equal])

/-- A label without a package names a target by the name of its repository. -/
theorem isTargetText (valid : IsRepositoryText name) (nonempty : name ≠ "") :
    IsTargetText name := by
  refine ⟨nonempty, ?_⟩
  intro char member
  have bounds := (valid.chars char member).toNat_bounds
  simp only [Char.reduceToNat] at bounds
  constructor
  · rintro rfl
    exact bounds.2.2.2.1 rfl
  · simp only [wordSeparators, List.mem_cons, List.not_mem_nil, or_false]
    omega

end IsRepositoryText

theorem IsPackageText.colon_not_mem {package : String} (valid : IsPackageText package) :
    ':' ∉ package.toList := fun member => valid.chars ':' member (by simp)

theorem isPackageText_empty : IsPackageText "" where
  chars := by simp
  ends := by
    intro front empty
    have chars := congrArg String.toList empty
    simp at chars

theorem repository_create_eq_ok_iff {name : String} {repository : RepositoryName} :
    RepositoryName.create name = .ok repository ↔ IsRepositoryText name ∧ repository = ⟨name⟩ := by
  rw [RepositoryName.create_eq_ok_iff, isCanonical_iff]

theorem repository_create_cases (name : String) :
    (IsRepositoryText name ∧ RepositoryName.create name = .ok ⟨name⟩) ∨
      RepositoryName.create name = .error (.invalidRepository name) := by
  by_cases valid : isCanonical name = true
  · exact Or.inl ⟨isCanonical_iff.1 valid, by simp [RepositoryName.create, valid]⟩
  · exact Or.inr (by simp [RepositoryName.create, valid])

theorem visibleRepository_of_resolves {mapping : RepositoryMapping} {apparent repository : String}
    (valid : IsRepositoryText apparent) (resolves : Resolves mapping apparent repository) :
    visibleRepository mapping apparent = .ok ⟨repository⟩ := by
  have created := repository_create_eq_ok_iff.2 ⟨valid, rfl⟩
  rcases resolves with _ | ⟨nonempty, bound, validTarget⟩
  · simp only [visibleRepository, created, RepositoryMapping.resolve?_empty_name]
    rfl
  · have resolved := repository_create_eq_ok_iff.2 ⟨validTarget, rfl⟩
    simp only [visibleRepository, created, RepositoryMapping.resolve?, nonempty, bound, resolved]
    rfl

theorem visibleRepository_of_unbound {mapping : RepositoryMapping} {apparent : String}
    (valid : IsRepositoryText apparent) (nonempty : apparent ≠ "")
    (unbound : mapping.entries.get? apparent = none) :
    visibleRepository mapping apparent = .error (.notVisible apparent mapping.owner) := by
  have created := repository_create_eq_ok_iff.2 ⟨valid, rfl⟩
  simp only [visibleRepository, created, RepositoryMapping.resolve?, nonempty, unbound]
  rfl

/-- The outcomes of looking up an apparent name: a repository, bad syntax, or nothing. -/
theorem visibleRepository_cases (mapping : RepositoryMapping) (apparent : String) :
    (∃ repository, IsRepositoryText apparent ∧ Resolves mapping apparent repository ∧
      visibleRepository mapping apparent = .ok ⟨repository⟩) ∨
    (∃ name, visibleRepository mapping apparent = .error (.invalidRepository name)) ∨
    (IsRepositoryText apparent ∧ apparent ≠ "" ∧ mapping.entries.get? apparent = none ∧
      visibleRepository mapping apparent = .error (.notVisible apparent mapping.owner)) := by
  rcases repository_create_cases apparent with ⟨valid, created⟩ | failed
  · by_cases empty : apparent = ""
    · subst empty
      exact Or.inl ⟨"", valid, .main, visibleRepository_of_resolves valid .main⟩
    · rcases bound : mapping.entries.get? apparent with _ | repository
      · exact Or.inr (Or.inr ⟨valid, empty, rfl, visibleRepository_of_unbound valid empty bound⟩)
      · rcases repository_create_cases repository with ⟨validTarget, _⟩ | failed
        · have resolves : Resolves mapping apparent repository := .entry empty bound validTarget
          exact Or.inl ⟨repository, valid, resolves, visibleRepository_of_resolves valid resolves⟩
        · refine Or.inr (Or.inl ⟨repository, ?_⟩)
          simp only [visibleRepository, created, RepositoryMapping.resolve?, empty, bound, failed]
          rfl
  · refine Or.inr (Or.inl ⟨apparent, ?_⟩)
    simp only [visibleRepository, failed]
    rfl

/-! ## The pieces of a label -/

theorem ofParts_eq_ok_iff {raw : String} {packageId : PackageId} {target : String} {label : Label} :
    ofParts raw packageId target.toList = .ok label ↔
      IsPackageText packageId.package ∧ IsTargetText target ∧ label = ⟨packageId, target⟩ := by
  rw [← isPackageName_iff, ← isTargetName_iff, ofParts]
  by_cases validPackage : isPackageName packageId.package.toList = true
  · by_cases validTarget : isTargetName target.toList = true
    · simp [validPackage, validTarget, eq_comm]
    · simp [validPackage, validTarget]
  · simp [validPackage]

theorem isSyntaxError_of_ofParts {raw : String} {packageId : PackageId} {target : List Char}
    {failure : Error} (failed : ofParts raw packageId target = .error failure) :
    IsSyntaxError failure := by
  unfold ofParts at failed
  split at failed
  · cases failed
    trivial
  · split at failed
    · cases failed
      trivial
    · cases failed

theorem isSyntaxError_of_ofPath {raw : String} {repository : RepositoryName} {path : List Char}
    {failure : Error} (failed : ofPath raw repository path = .error failure) :
    IsSyntaxError failure := by
  unfold ofPath at failed
  split at failed <;> exact isSyntaxError_of_ofParts failed

theorem isSyntaxError_of_ofRepositoryPart {raw : String} {repository : RepositoryName}
    {part : List Char} {path : Option (List Char)} {failure : Error}
    (failed : ofRepositoryPart raw repository part path = .error failure) :
    IsSyntaxError failure := by
  unfold ofRepositoryPart at failed
  split at failed
  · exact isSyntaxError_of_ofPath failed
  · split at failed
    · cases failed
      trivial
    · cases failed

theorem cutAtPath_append {part path : List Char} (absent : '/' ∉ part) :
    cutAtPath (part ++ '/' :: '/' :: path) = (part, some path) := by
  have cut : Text.splitOnce? ['/', '/'] (part ++ (['/', '/'] ++ path)) = some (part, path) :=
    Text.splitOnce?_append absent
  simp only [List.cons_append, List.nil_append] at cut
  rw [cutAtPath, cut]

theorem cutAtPath_of_not_mem {part : List Char} (absent : '/' ∉ part) :
    cutAtPath part = (part, none) := by
  rw [cutAtPath, Text.splitOnce?_eq_none absent]

/-- A text without `//` after its opening is the opening and the repository part. -/
theorem eq_append_of_cutAtPath {raw opening : String} {rest part : List Char}
    (chars : raw.toList = opening.toList ++ rest) (cut : cutAtPath rest = (part, none)) :
    raw = opening ++ String.ofList part := by
  unfold cutAtPath at cut
  split at cut
  · cases cut
  · cases cut
    exact eq_append_ofList chars

/-- A text with `//` after its opening is put together from the pieces it is cut into. -/
theorem eq_append_path_of_cutAtPath {raw opening : String} {rest part path : List Char}
    (chars : raw.toList = opening.toList ++ rest) (cut : cutAtPath rest = (part, some path)) :
    raw = opening ++ String.ofList part ++ "//" ++ String.ofList path := by
  unfold cutAtPath at cut
  split at cut
  · rename_i first second found
    cases cut
    apply eq_append_ofList
    rw [chars, Text.append_of_splitOnce? found]
    simp
  · cases cut

/-! ## Completeness -/

variable {base : PackageId} {mapping : RepositoryMapping}

theorem append_ne_at_cons {apparent : String} (valid : IsRepositoryText apparent)
    (path further : List Char) : apparent.toList ++ '/' :: path ≠ '@' :: further := by
  intro equal
  rcases chars : apparent.toList with _ | ⟨first, others⟩
  · rw [chars] at equal
    cases equal
  · rw [chars] at equal
    cases equal
    exact valid.ne_at_cons others chars

theorem parse_apparent {raw : String} {rest : List Char} (chars : raw.toList = '@' :: rest)
    (single : ∀ further, rest ≠ '@' :: further) :
    parse raw base mapping =
      (visibleRepository mapping (String.ofList (cutAtPath rest).1)).bind fun repository =>
        ofRepositoryPart raw repository (cutAtPath rest).1 (cutAtPath rest).2 := by
  unfold parse
  rw [chars]
  split
  case h_1 equal => cases equal
  case h_2 further equal => exact absurd (List.cons.inj equal).2 (single further)
  case h_3 equal =>
    cases equal
    rfl
  case h_4 equal => simp at equal
  case h_5 equal => simp at equal
  case h_6 other _ _ => exact absurd rfl (other rest)

theorem parse_of_inRepository {opening path : String} {repository : RepositoryName}
    (inside : InRepository base mapping opening repository) :
    parse (opening ++ "//" ++ path) base mapping =
      ofPath (opening ++ "//" ++ path) repository path.toList := by
  cases inside with
  | @canonical name valid =>
      have chars : ("@@" ++ name ++ "//" ++ path).toList =
          '@' :: '@' :: (name.toList ++ '/' :: '/' :: path.toList) := by simp
      have created := repository_create_eq_ok_iff.2 ⟨valid, rfl⟩
      unfold parse
      rw [chars]
      simp only [cutAtPath_append valid.slash_not_mem, String.ofList_toList, created]
      rfl
  | @apparent apparent name valid resolves =>
      have chars : ("@" ++ apparent ++ "//" ++ path).toList =
          '@' :: (apparent.toList ++ '/' :: '/' :: path.toList) := by simp
      have found := visibleRepository_of_resolves valid resolves
      rw [parse_apparent chars (append_ne_at_cons valid ('/' :: path.toList)),
        cutAtPath_append valid.slash_not_mem, String.ofList_toList, found]
      rfl
  | base =>
      have chars : ("" ++ "//" ++ path).toList = '/' :: '/' :: path.toList := by simp
      unfold parse
      rw [chars]
      rfl

theorem parse_of_hidden {apparent raw : String} (hidden : Hidden mapping apparent raw) :
    parse raw base mapping = .error (.notVisible apparent mapping.owner) := by
  cases hidden with
  | alone valid nonempty unbound =>
      have chars : ("@" ++ apparent).toList = '@' :: apparent.toList := by simp
      rw [parse_apparent chars valid.ne_at_cons, cutAtPath_of_not_mem valid.slash_not_mem,
        String.ofList_toList, visibleRepository_of_unbound valid nonempty unbound]
      rfl
  | @path path valid nonempty unbound =>
      have chars : ("@" ++ apparent ++ "//" ++ path).toList =
          '@' :: (apparent.toList ++ '/' :: '/' :: path.toList) := by simp
      rw [parse_apparent chars (append_ne_at_cons valid ('/' :: path.toList)),
        cutAtPath_append valid.slash_not_mem, String.ofList_toList,
        visibleRepository_of_unbound valid nonempty unbound]
      rfl

theorem ofRepositoryPart_none {raw part : String} {repository : RepositoryName}
    (nonempty : part ≠ "") :
    ofRepositoryPart raw repository part.toList none = .ok ⟨⟨repository, ""⟩, part⟩ := by
  rw [ofRepositoryPart, isEmpty_toList_eq_false_iff.2 nonempty, String.ofList_toList]
  rfl

theorem ofPath_of_target {raw package target : String} {repository : RepositoryName}
    (validPackage : IsPackageText package) (validTarget : IsTargetText target) :
    ofPath raw repository (package ++ ":" ++ target).toList =
      .ok ⟨⟨repository, package⟩, target⟩ := by
  have chars : (package ++ ":" ++ target).toList =
      package.toList ++ ([':'] ++ target.toList) := by simp
  have cut : Text.splitOnce? [':'] (package.toList ++ ([':'] ++ target.toList)) =
      some (package.toList, target.toList) := Text.splitOnce?_append validPackage.colon_not_mem
  simp only [ofPath, chars, cut, String.ofList_toList]
  exact ofParts_eq_ok_iff.2 ⟨validPackage, validTarget, rfl⟩

theorem afterLast_of_isLastSegment {package segment : String}
    (last : IsLastSegment package segment) :
    Text.afterLast '/' package.toList = segment.toList := by
  rcases last with ⟨plain⟩ | ⟨plain⟩
  · exact Text.afterLast_of_not_mem plain
  · rw [String.toList_append, String.toList_append, List.append_assoc]
    exact Text.afterLast_append plain

theorem ofPath_of_package {raw package target : String} {repository : RepositoryName}
    (validPackage : IsPackageText package) (last : IsLastSegment package target)
    (validTarget : IsTargetText target) :
    ofPath raw repository package.toList = .ok ⟨⟨repository, package⟩, target⟩ := by
  rw [ofPath, Text.splitOnce?_eq_none validPackage.colon_not_mem, afterLast_of_isLastSegment last,
    String.ofList_toList]
  exact ofParts_eq_ok_iff.2 ⟨validPackage, validTarget, rfl⟩

/-- Every text of the grammar is read as what it denotes. -/
theorem parse_of_denotes {raw : String} {label : Label} (denotes : Denotes base mapping raw label) :
    parse raw base mapping = .ok label := by
  cases denotes with
  | @canonical repository valid nonempty =>
      have chars : ("@@" ++ repository).toList = '@' :: '@' :: repository.toList := by simp
      have created := repository_create_eq_ok_iff.2 ⟨valid, rfl⟩
      unfold parse
      rw [chars]
      simp only [cutAtPath_of_not_mem valid.slash_not_mem, String.ofList_toList, created]
      exact ofRepositoryPart_none nonempty
  | @apparent apparent repository valid nonempty resolves =>
      have chars : ("@" ++ apparent).toList = '@' :: apparent.toList := by simp
      have found := visibleRepository_of_resolves valid resolves
      rw [parse_apparent chars valid.ne_at_cons, cutAtPath_of_not_mem valid.slash_not_mem,
        String.ofList_toList, found]
      exact ofRepositoryPart_none nonempty
  | @target opening package target repository inside validPackage validTarget =>
      have joined : opening ++ "//" ++ package ++ ":" ++ target =
          opening ++ "//" ++ (package ++ ":" ++ target) := by simp only [String.append_assoc]
      rw [joined, parse_of_inRepository inside]
      exact ofPath_of_target validPackage validTarget
  | package inside validPackage last validTarget =>
      rw [parse_of_inRepository inside]
      exact ofPath_of_package validPackage last validTarget
  | @marked target validPackage validTarget =>
      have chars : (":" ++ target).toList = ':' :: target.toList := by simp
      unfold parse
      rw [chars]
      exact ofParts_eq_ok_iff.2 ⟨validPackage, validTarget, rfl⟩
  | plain validPackage validTarget noRepository noPath =>
      unfold parse
      split
      case h_1 chars => exact absurd (String.toList_eq_nil_iff.1 chars) validTarget.nonempty
      case h_2 rest chars =>
          exact absurd (eq_append_ofList (by simpa using chars)) (noRepository _)
      case h_3 rest _ chars =>
          exact absurd (eq_append_ofList (by simpa using chars)) (noRepository _)
      case h_4 rest chars =>
          exact absurd (eq_append_ofList (by simpa using chars)) (noPath _)
      case h_5 rest chars =>
          exact absurd rfl (validTarget.chars ':' (by simp [chars])).1
      case h_6 => exact ofParts_eq_ok_iff.2 ⟨validPackage, validTarget, rfl⟩

/-! ## Soundness -/

theorem isLastSegment_afterLast (package : String) :
    IsLastSegment package (String.ofList (Text.afterLast '/' package.toList)) := by
  have plain : '/' ∉ (String.ofList (Text.afterLast '/' package.toList)).toList := by
    rw [String.toList_ofList]
    exact Text.not_mem_afterLast '/' package.toList
  rcases Text.afterLast_cases '/' package.toList with whole | ⟨front, joined⟩
  · rw [whole, String.ofList_toList] at plain ⊢
    exact .whole plain
  · have split : package = String.ofList front ++ "/" ++
        String.ofList (Text.afterLast '/' package.toList) := by
      apply eq_append_ofList
      simpa using joined
    have last : IsLastSegment (String.ofList front ++ "/" ++
        String.ofList (Text.afterLast '/' package.toList)) _ := .after plain
    rwa [← split] at last

theorem denotes_of_ofPath {opening path raw : String} {repository : RepositoryName} {label : Label}
    (inside : InRepository base mapping opening repository)
    (read : ofPath raw repository path.toList = .ok label) :
    Denotes base mapping (opening ++ "//" ++ path) label := by
  unfold ofPath at read
  split at read
  · rename_i package target cut
    have joined : path = String.ofList package ++ ":" ++ String.ofList target := by
      apply eq_append_ofList
      simpa using Text.append_of_splitOnce? cut
    rw [← @String.toList_ofList target] at read
    rcases ofParts_eq_ok_iff.1 read with ⟨validPackage, validTarget, rfl⟩
    have denotes := Denotes.target inside validPackage validTarget
    simp only [joined, ← String.append_assoc]
    exact denotes
  · rw [String.ofList_toList, ← @String.toList_ofList (Text.afterLast '/' path.toList)] at read
    rcases ofParts_eq_ok_iff.1 read with ⟨validPackage, validTarget, rfl⟩
    exact .package inside validPackage (isLastSegment_afterLast path) validTarget

theorem denotes_of_ofRepositoryPart {opening raw : String} {part rest : List Char}
    {path : Option (List Char)} {repository : RepositoryName} {label : Label}
    (chars : raw.toList = opening.toList ++ rest) (cut : cutAtPath rest = (part, path))
    (inside : InRepository base mapping (opening ++ String.ofList part) repository)
    (alone : String.ofList part ≠ "" →
      Denotes base mapping (opening ++ String.ofList part)
        ⟨⟨repository, ""⟩, String.ofList part⟩)
    (read : ofRepositoryPart raw repository part path = .ok label) :
    Denotes base mapping raw label := by
  rcases path with _ | path
  · rw [eq_append_of_cutAtPath chars cut]
    rcases part with _ | ⟨first, others⟩
    · cases read
    · cases read
      exact alone (by simp)
  · rw [eq_append_path_of_cutAtPath chars cut]
    apply denotes_of_ofPath inside
    rw [String.toList_ofList]
    exact read

/-- What is read belongs to the grammar and is what the text denotes. -/
theorem denotes_of_parse {raw : String} {label : Label}
    (parsed : parse raw base mapping = .ok label) : Denotes base mapping raw label := by
  unfold parse at parsed
  split at parsed
  case h_1 => cases parsed
  case h_2 rest chars =>
    rcases cut : cutAtPath rest with ⟨part, path⟩
    rcases repository_create_cases (String.ofList part) with ⟨valid, created⟩ | failed
    · have opened : raw.toList = "@@".toList ++ rest := by simpa using chars
      simp only [cut, created] at parsed
      exact denotes_of_ofRepositoryPart opened cut (.canonical valid) (.canonical valid) parsed
    · simp only [cut, failed] at parsed
      cases parsed
  case h_3 rest _ chars =>
    rcases cut : cutAtPath rest with ⟨part, path⟩
    rcases visibleRepository_cases mapping (String.ofList part) with
      ⟨repository, valid, resolves, found⟩ | ⟨name, failed⟩ | ⟨_, _, _, failed⟩
    · have opened : raw.toList = "@".toList ++ rest := by simpa using chars
      simp only [cut, found] at parsed
      exact denotes_of_ofRepositoryPart opened cut (.apparent valid resolves)
        (fun nonempty => .apparent valid nonempty resolves) parsed
    · simp only [cut, failed] at parsed
      cases parsed
    · simp only [cut, failed] at parsed
      cases parsed
  case h_4 path chars =>
    have joined : raw = "" ++ "//" ++ String.ofList path := eq_append_ofList (by simpa using chars)
    rw [joined]
    apply denotes_of_ofPath .base
    rw [String.toList_ofList]
    exact parsed
  case h_5 target chars =>
    have joined : raw = ":" ++ String.ofList target := eq_append_ofList (by simpa using chars)
    rw [← @String.toList_ofList target] at parsed
    rcases ofParts_eq_ok_iff.1 parsed with ⟨validPackage, validTarget, rfl⟩
    rw [joined]
    exact .marked validPackage validTarget
  case h_6 noCanonical noRepository noPath _ =>
    rcases ofParts_eq_ok_iff.1 parsed with ⟨validPackage, validTarget, rfl⟩
    apply Denotes.plain validPackage validTarget
    · intro rest joined
      exact noRepository rest.toList (by simp [joined])
    · intro rest joined
      exact noPath rest.toList (by simp [joined])

/-! ## Failures -/

theorem error_of_parse {raw : String} {failure : Error}
    (failed : parse raw base mapping = .error failure) :
    IsSyntaxError failure ∨
      ∃ apparent, Hidden mapping apparent raw ∧ failure = .notVisible apparent mapping.owner := by
  unfold parse at failed
  split at failed
  case h_1 =>
    cases failed
    exact Or.inl trivial
  case h_2 rest chars =>
    rcases cut : cutAtPath rest with ⟨part, path⟩
    rcases repository_create_cases (String.ofList part) with ⟨_, created⟩ | rejected
    · simp only [cut, created] at failed
      exact Or.inl (isSyntaxError_of_ofRepositoryPart failed)
    · simp only [cut, rejected] at failed
      cases failed
      exact Or.inl trivial
  case h_3 rest _ chars =>
    rcases cut : cutAtPath rest with ⟨part, path⟩
    rcases visibleRepository_cases mapping (String.ofList part) with
      ⟨repository, _, _, found⟩ | ⟨name, rejected⟩ | ⟨valid, nonempty, unbound, hidden⟩
    · simp only [cut, found] at failed
      exact Or.inl (isSyntaxError_of_ofRepositoryPart failed)
    · simp only [cut, rejected] at failed
      cases failed
      exact Or.inl trivial
    · simp only [cut, hidden] at failed
      cases failed
      have opened : raw.toList = "@".toList ++ rest := by simpa using chars
      refine Or.inr ⟨String.ofList part, ?_, rfl⟩
      rcases path with _ | path
      · rw [eq_append_of_cutAtPath opened cut]
        exact .alone valid nonempty unbound
      · rw [eq_append_path_of_cutAtPath opened cut]
        exact .path valid nonempty unbound
  case h_4 => exact Or.inl (isSyntaxError_of_ofPath failed)
  case h_5 => exact Or.inl (isSyntaxError_of_ofParts failed)
  case h_6 => exact Or.inl (isSyntaxError_of_ofParts failed)

theorem kind_of_parse {raw : String} {failure : Error}
    (failed : parse raw base mapping = .error failure) :
    failure.kind = .labelSyntax ∨
      (failure.kind = .packageLookup ∧ ∃ apparent, Hidden mapping apparent raw) := by
  rcases error_of_parse failed with syntaxError | ⟨apparent, hidden, rfl⟩
  · exact Or.inl syntaxError.kind
  · exact Or.inr ⟨rfl, apparent, hidden⟩

/--
A text is read as a label exactly when it denotes that label. Otherwise its
syntax is at fault, but for the texts that name a repository which is not
visible; these are reported as such, whatever stands after the name.
-/
theorem parse_iff_denotes (raw : String) (base : PackageId) (mapping : RepositoryMapping) :
    (∀ label, parse raw base mapping = .ok label ↔ Denotes base mapping raw label) ∧
    (∀ failure, parse raw base mapping = .error failure →
      failure.kind = .labelSyntax ∨
        (failure.kind = .packageLookup ∧ ∃ apparent, Hidden mapping apparent raw)) ∧
    ∀ apparent, Hidden mapping apparent raw →
      parse raw base mapping = .error (.notVisible apparent mapping.owner) := by
  refine ⟨?_, fun failure => kind_of_parse, fun apparent => parse_of_hidden⟩
  intro label
  exact ⟨denotes_of_parse, parse_of_denotes⟩

end ExternalRepos.Label

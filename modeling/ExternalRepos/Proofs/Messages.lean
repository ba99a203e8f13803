import ExternalRepos.Proofs.Label.Grammar
import ExternalRepos.Proofs.Materializer.Outcome
import ExternalRepos.Proofs.Value.Written
import ExternalRepos.Session.Store

/-!
# Messages are lines of text

Much of the text in a message was chosen by whoever caused the error. It is sanitized,
or it was checked before, or it is shown as a written value; a message is printable in
each of these cases, and so it stays on its line. What is shown as it was given are the
names of rules, of their attributes and of the owners of mappings: where a message holds
one of these, it is printable if the name is.

An error of the schema materializer tells the keys and the rule of its request, since no
part of it but the check of a keyword reports a misfit (`Error.IsMisfit`).
-/

namespace ExternalRepos

open Text

/-! ## Names and labels -/

theorem isLine_of_checkUserProvided {name : String} {failure : Error}
    (rejected : checkUserProvided name = .error failure) : IsLine failure.message := by
  unfold checkUserProvided at rejected
  split at rejected
  · cases rejected
  · cases rejected
    exact IsPrintable.isLine (isPrintable_between (by decide +kernel) (isPrintable_sanitize name)
      (by decide +kernel))

/-- What is told about the syntax of a label is sanitized. -/
theorem Label.IsSyntaxError.isLine {failure : Error} (syntaxError : IsSyntaxError failure) :
    IsLine failure.message := by
  apply IsPrintable.isLine
  cases failure with
  | emptyLabel => decide
  | malformedLabel | invalidPackage | invalidTarget | invalidRepository =>
      exact isPrintable_between (by decide +kernel) (isPrintable_sanitize _) (by decide +kernel)
  | _ => exact syntaxError.elim

theorem isLine_of_create {name : String} {failure : Error}
    (rejected : RepositoryName.create name = .error failure) : IsLine failure.message := by
  unfold RepositoryName.create at rejected
  split at rejected
  · cases rejected
  · cases rejected
    exact Label.IsSyntaxError.isLine trivial

/-- The characters of repository names are ASCII, and none of them is a control. -/
theorem Label.IsRepositoryText.isPrintable {name : String} (valid : IsRepositoryText name) :
    IsPrintable name := by
  intro char shown
  have bounds := (valid.chars char shown).toNat_bounds
  apply isPrintable_of_isGraphic
  simp only [isGraphic, Bool.and_eq_true, decide_eq_true_eq]
  omega

theorem Label.isPrintable_of_hidden {mapping : RepositoryMapping} {apparent raw : String}
    (hidden : Hidden mapping apparent raw) : IsPrintable apparent := by
  cases hidden with
  | alone valid => exact valid.isPrintable
  | path valid => exact valid.isPrintable

theorem isLine_of_parse {raw : String} {base : PackageId} {mapping : RepositoryMapping}
    {failure : Error} (failed : Label.parse raw base mapping = .error failure) :
    (failure.kind = .labelSyntax ∧ IsLine failure.message) ∨
      (failure.kind = .packageLookup ∧ (IsPrintable mapping.owner → IsLine failure.message)) := by
  rcases Label.error_of_parse failed with syntaxError | ⟨apparent, hidden, rfl⟩
  · exact Or.inl ⟨syntaxError.kind, syntaxError.isLine⟩
  · refine Or.inr ⟨rfl, fun owner => IsPrintable.isLine ?_⟩
    exact isPrintable_append.2 ⟨isPrintable_between (by decide +kernel)
      (Label.isPrintable_of_hidden hidden) (by decide), owner⟩

/-! ## Vendoring -/

theorem isLine_of_repository {given : String} {failure : Error}
    (rejected : VendorMarks.repository given = .error failure) : IsLine failure.message := by
  unfold VendorMarks.repository at rejected
  split at rejected
  · cases rejected
    exact IsPrintable.isLine (by decide +kernel)
  · rename_i name _
    rcases created : RepositoryName.create (String.ofList name) with cause | repository
    · rw [created] at rejected
      cases rejected
      exact IsPrintable.isLine
        (isPrintable_append.2 ⟨by decide +kernel, (isLine_of_create created).printable⟩)
    · rw [created] at rejected
      cases rejected
  · cases rejected
    exact IsPrintable.isLine (by decide +kernel)

/-- A call that marks a repository fails for its context, or for the name that it is given. -/
theorem isLine_of_mark {store : Store} {context : Reference} {what given : String}
    {add : VendorMarks → RepositoryName → VendorMarks} {failure : Error} (shown : IsPrintable what)
    (failed : (store.mark context what add given).2 = .error failure) : IsLine failure.message := by
  unfold Store.mark at failed
  rcases attached : store.attachedVendor context what with cause | vendor
  · rw [attached] at failed
    cases failed
    unfold Store.attachedVendor at attached
    split at attached
    · cases attached
    · cases attached
      exact IsPrintable.isLine (isPrintable_append.2 ⟨shown, by decide +kernel⟩)
  · rw [attached] at failed
    rcases named : VendorMarks.repository given with cause | repository
    · simp only [named] at failed
      cases failed
      exact isLine_of_repository named
    · simp only [named] at failed
      cases failed

/-! ## Misfits -/

/-- The errors about values that do not have the type of their attribute. -/
def Error.IsMisfit : Error → Prop
  | .wrongType _ _ _ _ => True
  | _ => False

theorem Label.not_isMisfit_of_parse {raw : String} {base : PackageId}
    {mapping : RepositoryMapping} {failure : Error}
    (failed : Label.parse raw base mapping = .error failure) : ¬failure.IsMisfit := by
  intro misfit
  rcases error_of_parse failed with syntaxError | ⟨apparent, _, rfl⟩
  · cases failure <;> first | exact misfit | exact syntaxError
  · exact misfit

namespace Scope

variable {scope : Scope} {failure : Error}

theorem not_isMisfit_of_resolveLabel {value : Value}
    (failed : scope.resolveLabel value = .error failure) : ¬failure.IsMisfit := by
  intro misfit
  unfold resolveLabel at failed
  split at failed
  · rw [map_eq_error_iff, canonical, map_eq_error_iff] at failed
    exact Label.not_isMisfit_of_parse failed misfit
  · split_ifs at failed
    · cases failed
      exact misfit
    · split at failed <;> cases failed <;> exact misfit

theorem not_isMisfit_of_resolveLabels {values : List Value}
    (failed : scope.resolveLabels values = .error failure) : ¬failure.IsMisfit := by
  induction values with
  | nil => cases failed
  | cons first rest ih =>
      rcases bind_eq_error_iff.1 failed with firstFailed | ⟨label, _, failed⟩
      · exact not_isMisfit_of_resolveLabel firstFailed
      · rcases bind_eq_error_iff.1 failed with restFailed | ⟨labels, _, impossible⟩
        · exact ih restFailed
        · cases impossible

theorem not_isMisfit_of_resolve {type : AttributeType} {value : Value}
    (failed : scope.resolve type value = .error failure) : ¬failure.IsMisfit := by
  intro misfit
  unfold resolve at failed
  split at failed
  · exact not_isMisfit_of_resolveLabel failed misfit
  · split at failed
    · rw [map_eq_error_iff] at failed
      exact not_isMisfit_of_resolveLabels failed misfit
    · cases failed
      exact misfit
  · cases failed

end Scope

namespace RuleClass

variable {ruleClass : RuleClass} {scope : Scope} {values : List (String × Value)} {failure : Error}

/-- What is asked of a rule after its keywords were checked is no matter of types. -/
theorem not_isMisfit_of_instantiate
    (failed : ruleClass.instantiate scope values = .error failure) : ¬failure.IsMisfit := by
  intro misfit
  rcases bind_eq_error_iff.1 failed with missing | ⟨_, _, failed⟩
  · rcases checkMandatory_eq_error_iff.1 missing with ⟨_, schema, _, _, _, _, rfl⟩
    exact misfit
  rcases bind_eq_error_iff.1 failed with unread | ⟨defaults, _, failed⟩
  · rcases labelDefaults_eq_error_iff.1 unread with ⟨_, schema, _, _, _, _, unresolved⟩
    rw [Attribute.resolvedDefault, map_eq_error_iff] at unresolved
    exact Scope.not_isMisfit_of_resolve unresolved misfit
  · split at failed
    · cases failed
    · cases failed
      exact misfit

variable {expected : AttributeType} {key rule : String} {given : Value}

/-- A misfit is reported with the key of an attribute and the name of the rule. -/
theorem of_keywordFault_wrongType {entry : String × Value}
    (fault : ruleClass.KeywordFault scope entry (.wrongType expected key rule given)) :
    key ∈ ruleClass.attributeNames ∧ rule = ruleClass.name := by
  cases fault with
  | type known =>
      rcases attribute?_eq_some_iff_mem.1 known with ⟨schemaMem, rfl⟩
      exact ⟨List.mem_map_of_mem schemaMem, rfl⟩
  | label _ _ unreadable =>
      rcases unreadable with ⟨_, raw, _, _, _, unread⟩
      exact absurd trivial (Label.not_isMisfit_of_parse unread)

theorem isPrintable_of_mem_attributeNames
    (attributes : ∀ schema ∈ ruleClass.attributes, IsPrintable schema.name)
    (known : key ∈ ruleClass.attributeNames) : IsPrintable key := by
  rcases List.mem_map.1 known with ⟨schema, schemaMem, rfl⟩
  rcases List.mem_cons.1 schemaMem with rfl | declared
  · decide
  · exact attributes schema declared

end RuleClass

theorem isPrintable_typeName (value : Value) : IsPrintable value.typeName := by
  cases value <;> rw [Value.typeName] <;> decide

theorem isPrintable_wrongType {expected : AttributeType} {key rule : String}
    (keyShown : IsPrintable key) (ruleShown : IsPrintable rule) (given : Value) :
    IsPrintable (Error.wrongType expected key rule given).message := by
  have typeShown : IsPrintable expected.name := by cases expected <;> decide
  refine isPrintable_between (isPrintable_between (isPrintable_between (isPrintable_between
    (isPrintable_between ?_ typeShown ?_) keyShown ?_) ruleShown ?_) given.isPrintable_written ?_)
    (isPrintable_typeName given) ?_
  all_goals decide +kernel

theorem isLine_of_schema {request : Request} {expected : AttributeType} {key rule : String}
    {given : Value} (ruleShown : IsPrintable request.ruleClass.name)
    (attributes : ∀ schema ∈ request.ruleClass.attributes, IsPrintable schema.name)
    (rejected : (Materializer.schema request).outcome =
      .error (.wrongType expected key rule given)) :
    IsLine (Error.wrongType expected key rule given).message := by
  rcases bind_eq_error_iff.1 rejected with misfit | ⟨values, _, incomplete⟩
  · rcases RuleClass.explicitValues_eq_error_iff.1 misfit with ⟨_, entry, _, _, _, fault⟩
    rcases RuleClass.of_keywordFault_wrongType fault with ⟨known, rfl⟩
    have keyShown := RuleClass.isPrintable_of_mem_attributeNames attributes known
    exact (isPrintable_wrongType keyShown ruleShown given).isLine
  · exact absurd trivial (RuleClass.not_isMisfit_of_instantiate incomplete)

/-! ## Summaries -/

theorem Specification.isLine_describe {specification : Specification}
    (ruleShown : IsPrintable specification.ruleClassName)
    (keysShown : ∀ key ∈ specification.attributes.keys, IsPrintable key) (name : Option String) :
    IsLine (specification.describe name) := by
  have parts : ∀ part ∈ specification.summaryParts name, IsPrintable part := by
    rw [summaryParts, List.forall_mem_append, List.forall_mem_map]
    constructor
    · intro part partMem
      rcases Option.map_eq_some_iff.1 (Option.mem_toList.1 partMem) with ⟨shown, _, rfl⟩
      rw [isPrintable_append]
      exact ⟨by decide, isPrintable_quote shown⟩
    · intro entry entryMem
      simp only [isPrintable_append]
      exact ⟨⟨keysShown entry.1 (List.mem_map_of_mem entryMem), by decide⟩,
        entry.2.isPrintable_written⟩
  apply IsPrintable.isLine
  simp only [describe, isPrintable_append]
  exact ⟨⟨⟨ruleShown, by decide⟩, Value.isPrintable_commaSeparated parts⟩, by decide⟩

/--
Messages are printable and stay on one line: those about names that users may not choose,
about canonical names, about labels and about the names given in vendor files, for whatever
text they were given. A message that a repository is not visible is so if the name of the
mapping's owner is printable, and the message about a value of the wrong type and the
summary of a specification are if the names of the rule and of its attributes are, whatever
the values hold.
-/
theorem printable_diagnostics :
    (∀ name failure, checkUserProvided name = .error failure → IsLine failure.message) ∧
    (∀ name failure, RepositoryName.create name = .error failure → IsLine failure.message) ∧
    (∀ raw base mapping failure, Label.parse raw base mapping = .error failure →
      (failure.kind = .labelSyntax ∧ IsLine failure.message) ∨
        (failure.kind = .packageLookup ∧ (IsPrintable mapping.owner → IsLine failure.message))) ∧
    (∀ (store : Store) context given failure,
      (store.mark context "ignore()" VendorMarks.ignore given).2 = .error failure ∨
        (store.mark context "pin()" VendorMarks.pin given).2 = .error failure →
      IsLine failure.message) ∧
    (∀ (request : Request) expected key rule given,
      IsPrintable request.ruleClass.name →
      (∀ schema ∈ request.ruleClass.attributes, IsPrintable schema.name) →
      (Materializer.schema request).outcome = .error (.wrongType expected key rule given) →
      IsLine (Error.wrongType expected key rule given).message) ∧
    ∀ (specification : Specification) name, IsPrintable specification.ruleClassName →
      (∀ key ∈ specification.attributes.keys, IsPrintable key) →
      IsLine (specification.describe name) := by
  refine ⟨fun _ _ => isLine_of_checkUserProvided, fun _ _ => isLine_of_create,
    fun _ _ _ _ => isLine_of_parse, ?_, fun _ _ _ _ _ => isLine_of_schema,
    fun specification name ruleShown keysShown =>
      specification.isLine_describe ruleShown keysShown name⟩
  rintro store context given failure (failed | failed)
  · exact isLine_of_mark (by decide) failed
  · exact isLine_of_mark (by decide) failed

/-- Line feeds in a name, in labels, and in a key and the bytes of a value; other controls too. -/
theorem printable_diagnostics_of_line_feeds :
    let mapping : RepositoryMapping := .empty
    let value : Value := .dict [(.text "a\nb", .list [.bytes [0x0a, 0x1b], .text "\u2028'"])]
    let ruleClass : RuleClass :=
      ⟨"archive", default, [⟨"urls", .stringList, .null, false, none, ""⟩], "", by decide⟩
    let request : Request :=
      ⟨⟨.root, mapping⟩, default, "1.0", default, "", ruleClass,
        .ofList [("name", .text "a"), ("urls", value)]⟩
    let specification : Specification := ⟨"//:defs.bzl", "archive", .ofList [("urls", value)]⟩
    (checkUserProvided "a\nb" = .error (.invalidUserName "a\nb") ∧
      IsLine (Error.invalidUserName "a\nb").message) ∧
    (Label.parse "//p\n:t" .root mapping = .error (.invalidPackage "//p\n:t") ∧
      IsLine (Error.invalidPackage "//p\n:t").message) ∧
    (Label.parse "@r//p\n:t" .root mapping = .error (.notVisible "r" mapping.owner) ∧
      IsLine (Error.notVisible "r" mapping.owner).message) ∧
    ((Materializer.schema request).outcome =
        .error (.wrongType .stringList "urls" "archive" value) ∧
      IsLine (Error.wrongType .stringList "urls" "archive" value).message) ∧
    specification.describe (some "a\x1b") =
      "archive(name = 'a\\x1b', urls = \x7b'a\\nb': [b'\\n\\x1b', \"\\u2028'\"]\x7d)" ∧
    IsLine (specification.describe (some "a\x1b")) := by
  intro mapping value ruleClass request specification
  rcases printable_diagnostics with ⟨userName, _, label, _, misfit, summary⟩
  have rejected : checkUserProvided "a\nb" = .error (.invalidUserName "a\nb") := rfl
  have unread : Label.parse "//p\n:t" .root mapping = .error (.invalidPackage "//p\n:t") := rfl
  have hidden : Label.parse "@r//p\n:t" .root mapping = .error (.notVisible "r" mapping.owner) :=
    rfl
  have misfits : (Materializer.schema request).outcome =
      .error (.wrongType .stringList "urls" "archive" value) := by rfl
  have ruleShown : IsPrintable "archive" := by decide
  have attributesShown : ∀ schema ∈ ruleClass.attributes, IsPrintable schema.name := by
    simp only [ruleClass, List.forall_mem_cons]
    exact ⟨by decide, by simp⟩
  have keysShown : ∀ key ∈ specification.attributes.keys, IsPrintable key := by decide
  refine ⟨⟨rejected, userName _ _ rejected⟩, ⟨unread, ?_⟩, ⟨hidden, ?_⟩,
    ⟨misfits, misfit request _ _ _ _ ruleShown attributesShown misfits⟩, by decide +kernel,
    summary specification _ ruleShown keysShown⟩
  · rcases label _ _ _ _ unread with ⟨_, line⟩ | ⟨impossible, _⟩
    · exact line
    · cases impossible
  · rcases label _ _ _ _ hidden with ⟨impossible, _⟩ | ⟨_, line⟩
    · cases impossible
    · exact line (by decide +kernel)

end ExternalRepos

import ExternalRepos.Proofs.Materializer.Labels
import ExternalRepos.Proofs.Materializer.Schema

/-!
# The outcome of the schema materializer

The materializer makes three passes: over the keywords, over the attributes that
must have a value, and over the defaults that hold labels; and then it looks for a
name. Each pass fails with the first fault of its list (`RuleClass.KeywordFault`,
`RuleClass.Missing` and `RuleClass.UnreadableDefault`), and `RuleClass.Rejects` puts
them in order. `RuleClass.Accepts` says without any order what keywords must be like
if nothing is to be found, and `RuleClass.Completes` what a rule made of them reads.

The later passes look at the values that the first one has stored. `Explicit` relates
these to the keywords, so that every fault is described by what was given.
-/

namespace ExternalRepos

namespace RuleClass

variable {ruleClass : RuleClass} {scope : Scope} {keywords : OrderedMap Value}
  {entries values : List (String × Value)} {failure : Error}

/-! ## Keywords -/

/-- What is wrong with a keyword and its value. -/
inductive KeywordFault (ruleClass : RuleClass) (scope : Scope) : String × Value → Error → Prop
  | unknown {key : String} {given : Value} (unknown : ruleClass.attribute? key = none) :
      KeywordFault ruleClass scope (key, given) (.unknownAttribute key ruleClass.name)
  | type {key : String} {given : Value} {schema : Attribute}
      (known : ruleClass.attribute? key = some schema) (present : given ≠ .null)
      (rejected : schema.type.accepts given = false) :
      KeywordFault ruleClass scope (key, given)
        (.wrongType schema.type key ruleClass.name given)
  | label {key : String} {given : Value} {schema : Attribute} {failure : Error}
      (known : ruleClass.attribute? key = some schema)
      (accepted : schema.type.accepts given = true)
      (unreadable : FirstFault scope.Unreadable (schema.type.labels given) failure) :
      KeywordFault ruleClass scope (key, given) failure

theorem normalize_eq_error_iff {key : String} {schema : Attribute} {given : Value}
    (known : ruleClass.attribute? key = some schema) (present : given ≠ .null) :
    schema.normalize ruleClass.name scope given = .error failure ↔
      ruleClass.KeywordFault scope (key, given) failure := by
  have sameName := (attribute?_eq_some_iff_mem.1 known).2
  constructor
  · intro failed
    by_cases accepted : schema.type.accepts given = true
    · rw [Attribute.normalize_of_accepts accepted, map_eq_error_iff,
        Scope.resolve_eq_error_iff (AttributeType.textLabels_of_accepts accepted)] at failed
      exact .label known accepted failed
    · rw [Attribute.normalize, if_neg accepted, sameName] at failed
      cases failed
      exact .type known present (by simpa using accepted)
  · intro fault
    cases fault with
    | unknown unknown =>
        rw [known] at unknown
        cases unknown
    | type again _ rejected =>
        rw [known] at again
        cases again
        rw [Attribute.normalize, rejected, sameName]
        rfl
    | label again accepted unreadable =>
        rw [known] at again
        cases again
        rw [Attribute.normalize_of_accepts accepted, map_eq_error_iff,
          Scope.resolve_eq_error_iff (AttributeType.textLabels_of_accepts accepted)]
        exact unreadable

/-- The keywords are gone through up to the first fault. -/
theorem explicitValues_eq_error_iff :
    (ruleClass.explicitValues scope entries).outcome = .error failure ↔
      FirstFault (ruleClass.KeywordFault scope) entries failure := by
  apply eq_error_iff_firstFault fun entries => (ruleClass.explicitValues scope entries).outcome
  · intro failure impossible
    cases impossible
  · intro entry rest failure fault
    rcases entry with ⟨key, given⟩
    rcases found : ruleClass.attribute? key with _ | schema
    · cases fault with
      | unknown => simp only [explicitValues, found]
      | type known => simp [found] at known
      | label known => simp [found] at known
    · have present : given ≠ .null := by
        rintro rfl
        cases fault with
        | unknown unknown => simp [found] at unknown
        | type _ present => exact present rfl
        | label _ accepted => simp [AttributeType.accepts_null] at accepted
      have notNull := (not_congr Value.isNull_iff).2 present
      have failed := (normalize_eq_error_iff found present).2 fault
      simp only [explicitValues, found, notNull, failed]
      rfl
  · intro entry rest failure sound
    rcases entry with ⟨key, given⟩
    rcases found : ruleClass.attribute? key with _ | schema
    · exact absurd (.unknown found) (sound _)
    · by_cases absent : given = .null
      · subst absent
        simp only [explicitValues, found]
        rfl
      · have notNull := (not_congr Value.isNull_iff).2 absent
        rcases normalized : schema.normalize ruleClass.name scope given with fault | value
        · exact absurd ((normalize_eq_error_iff found absent).1 normalized) (sound fault)
        · simp only [explicitValues, found, notNull, normalized]
          exact map_eq_error_iff

/-! ## Mandatory attributes and label defaults -/

/-- A mandatory attribute is given no value. -/
def Missing (ruleClass : RuleClass) (keywords : OrderedMap Value) (schema : Attribute)
    (failure : Error) : Prop :=
  schema.mandatory = true ∧ keywords.given schema.name = .null ∧
    failure = .missingAttribute schema.name ruleClass.name

/-- An attribute is given no value, and its default holds a label that cannot be read. -/
def UnreadableDefault (scope : Scope) (keywords : OrderedMap Value) (schema : Attribute)
    (failure : Error) : Prop :=
  keywords.given schema.name = .null ∧
    FirstFault scope.Unreadable (schema.type.labels schema.default) failure

theorem checkMandatory_eq_error_iff :
    ruleClass.checkMandatory values = .error failure ↔
      FirstFault (fun schema failure =>
        (schema.mandatory && (values.lookup schema.name).isNone) = true ∧
          failure = .missingAttribute schema.name ruleClass.name)
        ruleClass.attributes failure := by
  rw [FirstFault.find?_iff, checkMandatory]
  split <;> rename_i found <;> simp [found, eq_comm]

theorem labelDefaults_eq_error_iff {attributes : List Attribute} :
    labelDefaults scope values attributes = .error failure ↔
      FirstFault (fun schema failure =>
        (schema.hasLabelDefault && (values.lookup schema.name).isNone) = true ∧
          schema.resolvedDefault scope = .error failure) attributes failure := by
  apply eq_error_iff_firstFault (labelDefaults scope values)
  · intro failure impossible
    cases impossible
  · rintro schema rest failure ⟨needed, unread⟩
    rw [labelDefaults, if_pos needed, unread]
    rfl
  · intro schema rest failure sound
    by_cases needed : (schema.hasLabelDefault && (values.lookup schema.name).isNone) = true
    · rcases read : schema.resolvedDefault scope with fault | value
      · exact absurd ⟨needed, read⟩ (sound fault)
      · rw [labelDefaults, if_pos needed, read]
        exact map_eq_error_iff
    · rw [labelDefaults, if_neg needed]

section Stored

variable (explicit : ruleClass.Explicit scope keywords.entries values)

include explicit

theorem Explicit.checkMandatory_eq_error_iff :
    ruleClass.checkMandatory values = .error failure ↔
      FirstFault (ruleClass.Missing keywords) ruleClass.attributes failure := by
  rw [RuleClass.checkMandatory_eq_error_iff]
  apply FirstFault.congr
  intro schema schemaMem fault
  rw [Bool.and_eq_true, Option.isNone_iff_eq_none,
    explicit.lookup_eq_none_iff (attribute?_of_mem schemaMem), and_assoc, Missing]

theorem Explicit.labelDefaults_eq_error_iff
    (textDefaults : ∀ schema ∈ ruleClass.attributes, schema.HasTextDefault) :
    labelDefaults scope values ruleClass.attributes = .error failure ↔
      FirstFault (UnreadableDefault scope keywords) ruleClass.attributes failure := by
  rw [RuleClass.labelDefaults_eq_error_iff]
  apply FirstFault.congr
  intro schema schemaMem fault
  have textDefault := textDefaults schema schemaMem
  rw [Bool.and_eq_true, Option.isNone_iff_eq_none,
    explicit.lookup_eq_none_iff (attribute?_of_mem schemaMem), UnreadableDefault]
  rcases labels : schema.hasLabelDefault with _ | _
  · simp [Attribute.labels_default_of_plain labels]
  · simp [Attribute.resolvedDefault_eq_error_iff textDefault labels]

end Stored

/-- Why keywords that fit make no rule: the first of three checks that finds a fault. -/
inductive Lacks (ruleClass : RuleClass) (scope : Scope) (keywords : OrderedMap Value) :
    Error → Prop
  | value {failure : Error}
      (missing : FirstFault (ruleClass.Missing keywords) ruleClass.attributes failure) :
      Lacks ruleClass scope keywords failure
  | default {failure : Error}
      (complete : Faultless (ruleClass.Missing keywords) ruleClass.attributes)
      (unreadable : FirstFault (UnreadableDefault scope keywords) ruleClass.attributes failure) :
      Lacks ruleClass scope keywords failure
  | name (complete : Faultless (ruleClass.Missing keywords) ruleClass.attributes)
      (readable : Faultless (UnreadableDefault scope keywords) ruleClass.attributes)
      (nameless : keywords.given "name" = .null) :
      Lacks ruleClass scope keywords (.missingAttribute "name" ruleClass.name)

/-- Why keywords make no rule: one of them is at fault, or they fit and do not suffice. -/
inductive Rejects (ruleClass : RuleClass) (scope : Scope) (keywords : OrderedMap Value) :
    Error → Prop
  | keyword {failure : Error}
      (fault : FirstFault (ruleClass.KeywordFault scope) keywords.entries failure) :
      Rejects ruleClass scope keywords failure
  | incomplete {failure : Error}
      (fits : Faultless (ruleClass.KeywordFault scope) keywords.entries)
      (lacks : ruleClass.Lacks scope keywords failure) : Rejects ruleClass scope keywords failure

theorem Explicit.instantiate_eq_error_iff
    (explicit : ruleClass.Explicit scope keywords.entries values)
    (textDefaults : ∀ schema ∈ ruleClass.attributes, schema.HasTextDefault) :
    ruleClass.instantiate scope values = .error failure ↔
      ruleClass.Lacks scope keywords failure := by
  have mandatory : ∀ failure, ruleClass.checkMandatory values = .error failure ↔
      FirstFault (ruleClass.Missing keywords) ruleClass.attributes failure :=
    fun _ => explicit.checkMandatory_eq_error_iff
  have defaults : ∀ failure, labelDefaults scope values ruleClass.attributes = .error failure ↔
      FirstFault (UnreadableDefault scope keywords) ruleClass.attributes failure :=
    fun _ => explicit.labelDefaults_eq_error_iff textDefaults
  unfold instantiate
  constructor
  · intro failed
    rcases bind_eq_error_iff.1 failed with missing | ⟨⟨⟩, checked, failed⟩
    · exact .value ((mandatory failure).1 missing)
    · have complete := (FirstFault.exists_ok_iff mandatory).1 ⟨(), checked⟩
      rcases bind_eq_error_iff.1 failed with unreadable | ⟨resolved, read, failed⟩
      · exact .default complete ((defaults failure).1 unreadable)
      · have readable := (FirstFault.exists_ok_iff defaults).1 ⟨resolved, read⟩
        rcases explicit.lookup_name with ⟨nameless, unset⟩ | ⟨name, _, set⟩
        · rw [unset] at failed
          cases failed
          exact .name complete readable nameless
        · rw [set] at failed
          cases failed
  · intro lacks
    cases lacks with
    | value missing =>
        rw [(mandatory failure).2 missing]
        rfl
    | default complete unreadable =>
        rcases (FirstFault.exists_ok_iff mandatory).2 complete with ⟨⟨⟩, checked⟩
        rw [checked, (defaults failure).2 unreadable]
        rfl
    | name complete readable nameless =>
        rcases (FirstFault.exists_ok_iff mandatory).2 complete with ⟨⟨⟩, checked⟩
        rcases (FirstFault.exists_ok_iff defaults).2 readable with ⟨resolved, read⟩
        rcases explicit.lookup_name with ⟨_, unset⟩ | ⟨name, present, _⟩
        · rw [checked, read, unset]
          rfl
        · rw [nameless] at present
          cases present

/-! ## Acceptance and rejection -/

/-- What keywords must be like to make a rule. -/
structure Accepts (ruleClass : RuleClass) (scope : Scope) (keywords : OrderedMap Value) :
    Prop where
  known : ∀ key ∈ keywords.keys, key ∈ ruleClass.attributeNames
  /-- What is given has the type of its attribute, and the labels in it can be read. -/
  fits : ∀ schema ∈ ruleClass.allAttributes, keywords.given schema.name ≠ .null →
    schema.type.accepts (keywords.given schema.name) = true ∧
      ∀ raw ∈ schema.type.labels (keywords.given schema.name),
        ∃ label, Label.parse raw scope.base scope.mapping = .ok label
  mandatory : ∀ schema ∈ ruleClass.attributes, schema.mandatory = true →
    keywords.given schema.name ≠ .null
  /-- The labels in the defaults that are needed can be read. -/
  defaults : ∀ schema ∈ ruleClass.attributes, keywords.given schema.name = .null →
    ∀ raw ∈ schema.type.labels schema.default,
      ∃ label, Label.parse raw scope.base scope.mapping = .ok label
  named : keywords.given "name" ≠ .null

theorem faultless_unreadable_iff {raws : List String} :
    Faultless scope.Unreadable raws ↔
      ∀ raw ∈ raws, ∃ label, Label.parse raw scope.base scope.mapping = .ok label := by
  apply forall₂_congr
  intro raw _
  cases parsed : Label.parse raw scope.base scope.mapping <;> simp [Scope.Unreadable, parsed]

theorem faultless_keywords_iff :
    Faultless (ruleClass.KeywordFault scope) keywords.entries ↔
      (∀ key ∈ keywords.keys, key ∈ ruleClass.attributeNames) ∧
      ∀ schema ∈ ruleClass.allAttributes, keywords.given schema.name ≠ .null →
        schema.type.accepts (keywords.given schema.name) = true ∧
          Faultless scope.Unreadable (schema.type.labels (keywords.given schema.name)) := by
  constructor
  · intro sound
    constructor
    · intro key keyMem
      rcases List.mem_map.1 keyMem with ⟨entry, entryMem, rfl⟩
      by_contra unknown
      exact sound entry entryMem _ (.unknown (attribute?_eq_none_iff.2 unknown))
    · intro schema schemaMem present
      have known : ruleClass.attribute? schema.name = some schema :=
        attribute?_eq_some_iff_mem.2 ⟨schemaMem, rfl⟩
      have entryMem := OrderedMap.get?_eq_some_iff.1 (OrderedMap.get?_of_given present)
      have accepted : schema.type.accepts (keywords.given schema.name) = true := by
        by_contra rejected
        exact sound _ entryMem _ (.type known present (by simpa using rejected))
      refine ⟨accepted, ?_⟩
      rw [FirstFault.faultless_iff]
      intro failure unreadable
      exact sound _ entryMem failure (.label known accepted unreadable)
  · rintro ⟨known, fits⟩ ⟨key, given⟩ entryMem failure fault
    have same : keywords.given key = given := OrderedMap.given_of_mem entryMem
    subst same
    cases fault with
    | unknown unknown =>
        exact attribute?_eq_none_iff.1 unknown (known key (List.mem_map_of_mem entryMem))
    | type found present rejected =>
        rcases attribute?_eq_some_iff_mem.1 found with ⟨schemaMem, rfl⟩
        simp [(fits _ schemaMem present).1] at rejected
    | label found accepted unreadable =>
        rcases attribute?_eq_some_iff_mem.1 found with ⟨schemaMem, rfl⟩
        have present := AttributeType.ne_null_of_accepts accepted
        exact FirstFault.faultless_iff.1 (fits _ schemaMem present).2 failure unreadable

/-- The four checks that keywords have to pass. -/
theorem accepts_iff :
    ruleClass.Accepts scope keywords ↔
      Faultless (ruleClass.KeywordFault scope) keywords.entries ∧
      Faultless (ruleClass.Missing keywords) ruleClass.attributes ∧
      Faultless (UnreadableDefault scope keywords) ruleClass.attributes ∧
      keywords.given "name" ≠ .null := by
  rw [faultless_keywords_iff]
  simp only [faultless_unreadable_iff]
  constructor
  · intro accepts
    refine ⟨⟨accepts.known, accepts.fits⟩, ?_, ?_, accepts.named⟩
    · rintro schema schemaMem failure ⟨mandatory, absent, _⟩
      exact accepts.mandatory schema schemaMem mandatory absent
    · rintro schema schemaMem failure ⟨absent, unreadable⟩
      have read := accepts.defaults schema schemaMem absent
      exact FirstFault.faultless_iff.1 (faultless_unreadable_iff.2 read) failure unreadable
  · rintro ⟨⟨known, fits⟩, complete, defaultsRead, named⟩
    refine ⟨known, fits, ?_, ?_, named⟩
    · intro schema schemaMem mandatory absent
      exact complete schema schemaMem _ ⟨mandatory, absent, rfl⟩
    · intro schema schemaMem absent
      rw [← faultless_unreadable_iff, FirstFault.faultless_iff]
      intro failure unreadable
      exact defaultsRead schema schemaMem failure ⟨absent, unreadable⟩

/-- Keywords are accepted if nothing speaks against them. -/
theorem accepts_iff_not_rejects :
    ruleClass.Accepts scope keywords ↔ ∀ failure, ¬ruleClass.Rejects scope keywords failure := by
  rw [accepts_iff]
  constructor
  · rintro ⟨fits, complete, readable, named⟩ failure rejects
    cases rejects with
    | keyword fault => exact FirstFault.faultless_iff.1 fits failure fault
    | incomplete _ lacks =>
        cases lacks with
        | value missing => exact FirstFault.faultless_iff.1 complete failure missing
        | default _ unreadable => exact FirstFault.faultless_iff.1 readable failure unreadable
        | name _ _ nameless => exact named nameless
  · intro unrejected
    have fits := FirstFault.faultless_iff.2 fun failure fault =>
      unrejected failure (.keyword fault)
    have lacking := fun failure lacks => unrejected failure (.incomplete fits lacks)
    have complete := FirstFault.faultless_iff.2 fun failure missing =>
      lacking failure (.value missing)
    have readable := FirstFault.faultless_iff.2 fun failure unreadable =>
      lacking failure (.default complete unreadable)
    refine ⟨fits, complete, readable, fun nameless => ?_⟩
    exact lacking _ (.name complete readable nameless)

/-! ## Rules -/

/-- A rule reads what keywords have given it, and falls back to its defaults. -/
structure Completes (ruleClass : RuleClass) (scope : Scope) (keywords : OrderedMap Value)
    (rule : Rule) : Prop where
  instantiates : rule.ruleClass = ruleClass
  read_name : rule.read "name" = .ok (keywords.given "name")
  read : ∀ schema ∈ ruleClass.attributes,
    ∃ value, rule.read schema.name = .ok value ∧
      schema.Takes scope (keywords.given schema.name) value
  read_unknown : ∀ key, key ∉ ruleClass.attributeNames →
    rule.read key = .error (.noSuchAttribute key ruleClass.name)
  isExplicit : ∀ key,
    rule.isExplicit key = true ↔ key = "name" ∨ keywords.given key ≠ .null

end RuleClass

namespace Materializer

variable {request : Request} {rule : Rule} {failure : Error}

theorem schema_eq_error_iff
    (textDefaults : ∀ schema ∈ request.ruleClass.attributes, schema.HasTextDefault) :
    (Materializer.schema request).outcome = .error failure ↔
      request.ruleClass.Rejects request.scope request.values failure := by
  have keywords : ∀ failure,
      (request.ruleClass.explicitValues request.scope request.values.entries).outcome =
          .error failure ↔
        FirstFault (request.ruleClass.KeywordFault request.scope) request.values.entries failure :=
    fun _ => RuleClass.explicitValues_eq_error_iff
  show (request.ruleClass.explicitValues request.scope request.values.entries).outcome.bind
    (request.ruleClass.instantiate request.scope) = .error failure ↔ _
  rw [bind_eq_error_iff, keywords]
  constructor
  · rintro (fault | ⟨values, valuesEq, failed⟩)
    · exact .keyword fault
    · have explicit := RuleClass.explicit_of_explicitValues valuesEq
      exact .incomplete ((FirstFault.exists_ok_iff keywords).1 ⟨values, valuesEq⟩)
        ((explicit.instantiate_eq_error_iff textDefaults).1 failed)
  · intro rejects
    cases rejects with
    | keyword fault => exact Or.inl fault
    | incomplete fits lacks =>
        rcases (FirstFault.exists_ok_iff keywords).2 fits with ⟨values, valuesEq⟩
        have explicit := RuleClass.explicit_of_explicitValues valuesEq
        exact Or.inr ⟨values, valuesEq, (explicit.instantiate_eq_error_iff textDefaults).2 lacks⟩

theorem exists_schema_eq_ok_iff
    (textDefaults : ∀ schema ∈ request.ruleClass.attributes, schema.HasTextDefault) :
    (∃ rule, (Materializer.schema request).outcome = .ok rule) ↔
      request.ruleClass.Accepts request.scope request.values := by
  rw [RuleClass.accepts_iff_not_rejects]
  simp only [← schema_eq_error_iff textDefaults]
  cases (Materializer.schema request).outcome <;> simp

/-- A materialized rule completes the keywords that it was made of. -/
theorem completes_of_schema_eq_ok
    (textDefaults : ∀ schema ∈ request.ruleClass.attributes, schema.HasTextDefault)
    (succeeded : (Materializer.schema request).outcome = .ok rule) :
    request.ruleClass.Completes request.scope request.values rule := by
  have accepts := (exists_schema_eq_ok_iff textDefaults).1 ⟨rule, succeeded⟩
  rcases exists_explicit_of_schema_eq_ok succeeded with ⟨values, explicit, instantiated⟩
  rcases RuleClass.instantiate_eq_ok instantiated with
    ⟨defaults, _, defaultsEq, sameClass, valuesEq, rfl⟩
  have stored : ∀ key, key ≠ "name" → rule.values.lookup key = values.lookup key := by
    intro key notName
    rw [valuesEq, OrderedMap.lookup_filter_of_ne notName]
  refine ⟨sameClass, ?_, ?_, fun key => read_unknown_of_schema_eq_ok succeeded, ?_⟩
  · rw [Rule.read_name, given_name_of_schema_eq_ok succeeded]
  · intro schema schemaMem
    rcases exists_read_of_schema_eq_ok succeeded schemaMem with ⟨value, found, read⟩
    exact ⟨value, read, Attribute.takes_of_valueFor (textDefaults schema schemaMem) found⟩
  · intro key
    rw [Rule.isExplicit, Bool.or_eq_true, decide_eq_true_eq]
    by_cases isName : key = "name"
    · simp [isName]
    · rw [stored key isName, Option.isSome_iff_ne_none]
      by_cases known : key ∈ request.ruleClass.attributeNames
      · rcases List.mem_map.1 known with ⟨schema, schemaMem, rfl⟩
        have found := RuleClass.attribute?_eq_some_iff_mem.2 ⟨schemaMem, rfl⟩
        rw [ne_eq, explicit.lookup_eq_none_iff found]
      · have absent : key ∉ request.values.keys := fun keyMem => known (accepts.known key keyMem)
        rw [explicit.lookup_eq_none_of_not_mem absent, OrderedMap.given_of_not_mem absent]
        simp

/--
The outcome of the schema materializer. A request succeeds exactly if its keywords
are known, fit and can be read, nothing mandatory is missing, the labels in the
defaults that are needed can be read, and there is a name. The error of a request
that fails is that of the first keyword at fault, or else of the first mandatory
attribute without a value, or else of the first default with a label that cannot
be read, or else of the missing name. A rule that is made reads every attribute as
the normal form of what was given for it, or of its default, or as the zero of its
type.
-/
theorem schema_outcome (request : Request)
    (textDefaults : ∀ schema ∈ request.ruleClass.attributes, schema.HasTextDefault) :
    ((∃ rule, (Materializer.schema request).outcome = .ok rule) ↔
      request.ruleClass.Accepts request.scope request.values) ∧
    (∀ failure, (Materializer.schema request).outcome = .error failure ↔
      request.ruleClass.Rejects request.scope request.values failure) ∧
    ∀ rule, (Materializer.schema request).outcome = .ok rule →
      request.ruleClass.Completes request.scope request.values rule :=
  ⟨exists_schema_eq_ok_iff textDefaults, fun _ => schema_eq_error_iff textDefaults,
    fun _ => completes_of_schema_eq_ok textDefaults⟩

/-- Keywords that get by with two label defaults, and an unknown key that stands before a misfit. -/
theorem schema_outcome_of_label_defaults :
    let ruleClass : RuleClass :=
      ⟨"archive", default,
        [⟨"build", .label, .text "x.BUILD", false, none, ""⟩,
          ⟨"deps", .labelList, .dict [(.text "//:a", .int 1)], false, none, ""⟩,
          ⟨"url", .string, .null, true, none, ""⟩], "", by decide⟩
    let scope : Scope := ⟨.root, .empty⟩
    let request (values : OrderedMap Value) : Request :=
      ⟨scope, default, "1.0", default, "", ruleClass, values⟩
    let complete : OrderedMap Value :=
      .ofList [("url", .text "u"), ("build", .null), ("name", .text "tool")]
    let misfit : OrderedMap Value := .ofList [("build", .null), ("extra", .null), ("url", .int 1)]
    (∀ schema ∈ ruleClass.attributes, schema.HasTextDefault) ∧
    ruleClass.Accepts scope complete ∧
    (∃ rule, (Materializer.schema (request complete)).outcome = .ok rule ∧
      ruleClass.Completes scope complete rule) ∧
    ruleClass.Rejects scope misfit (.unknownAttribute "extra" "archive") := by
  intro ruleClass scope request complete misfit
  have textDefaults : ∀ schema ∈ ruleClass.attributes, schema.HasTextDefault := by
    simp only [ruleClass, List.forall_mem_cons]
    exact ⟨Or.inr ⟨"x.BUILD", rfl⟩, Or.inr ⟨["//:a"], rfl⟩, Or.inl rfl, by simp⟩
  rcases schema_outcome (request complete) textDefaults with ⟨accepts, _, completes⟩
  rcases schema_outcome (request misfit) textDefaults with ⟨_, rejects, _⟩
  exact ⟨textDefaults, accepts.1 ⟨_, rfl⟩, ⟨_, rfl, completes _ rfl⟩, (rejects _).1 rfl⟩

end Materializer

end ExternalRepos

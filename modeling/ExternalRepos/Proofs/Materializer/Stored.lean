import Mathlib.Data.List.Forall2
import ExternalRepos.Materializer
import ExternalRepos.Proofs.Except
import ExternalRepos.Proofs.Label.RoundTrip
import ExternalRepos.Proofs.Value.Frozen

/-!
# Stored values

`AttributeType.Stores` lists, type by type, the values that a specification holds
for attributes with a value: nothing in them can be changed, and the labels in
them are canonical texts, which mean the same wherever they are read.

A value that fits an attribute is stored in one of these forms
(`Attribute.stores_of_normalize`), and a stored value fits its attribute again
and is stored as it is (`Attribute.normalize_of_stores`). An attribute that is
given nothing gets its default or the zero of its type; a default that the type
accepts is stored exactly as if it had been given. Giving an attribute the value
that it has therefore changes nothing (`Attribute.valueFor_freeze_of_valueFor`).
-/

namespace ExternalRepos

/-- A text that is read as a label with itself for its canonical form, from everywhere. -/
def Label.IsCanonicalText (text : String) : Prop :=
  ∀ (base : PackageId) (mapping : RepositoryMapping),
    ∃ label : Label, Label.parse text base mapping = .ok label ∧ label.canonicalForm = text

namespace AttributeType

/-- The values that are stored for the attributes of a type. -/
inductive Stores : AttributeType → Value → Prop
  | string (content : String) : Stores .string (.text content)
  | int (integer : Int) : Stores .int (.int integer)
  | bool (truth : Bool) : Stores .bool (.bool truth)
  | stringList (texts : List String) : Stores .stringList (.tuple (texts.map .text))
  | stringDict (bindings : List (String × String)) :
      Stores .stringDict (.map (bindings.map fun binding => (.text binding.1, .text binding.2)))
  | label {text : String} (canonical : Label.IsCanonicalText text) : Stores .label (.text text)
  | labelList {texts : List String} (canonical : ∀ text ∈ texts, Label.IsCanonicalText text) :
      Stores .labelList (.tuple (texts.map .text))

theorem isText_iff {value : Value} : isText value = true ↔ ∃ content, value = .text content := by
  cases value <;> simp [isText, Value.text?]

theorem all_isText_iff {items : List Value} :
    items.all isText = true ↔ ∃ texts : List String, items = texts.map .text := by
  induction items with
  | nil => exact ⟨fun _ => ⟨[], rfl⟩, fun _ => rfl⟩
  | cons item rest ih =>
      rw [List.all_cons, Bool.and_eq_true, isText_iff, ih]
      constructor
      · rintro ⟨⟨content, rfl⟩, texts, rfl⟩
        exact ⟨content :: texts, rfl⟩
      · rintro ⟨texts, same⟩
        cases texts with
        | nil => cases same
        | cons content others =>
            cases same
            exact ⟨⟨content, rfl⟩, others, rfl⟩

theorem all_isText_entries_iff {entries : List (Value × Value)} :
    (entries.all fun entry => isText entry.1 && isText entry.2) = true ↔
      ∃ bindings : List (String × String),
        entries = bindings.map fun binding => (.text binding.1, .text binding.2) := by
  induction entries with
  | nil => exact ⟨fun _ => ⟨[], rfl⟩, fun _ => rfl⟩
  | cons entry rest ih =>
      rw [List.all_cons, Bool.and_eq_true, Bool.and_eq_true, isText_iff, isText_iff, ih]
      constructor
      · rintro ⟨⟨⟨key, keyEq⟩, content, contentEq⟩, bindings, rfl⟩
        refine ⟨(key, content) :: bindings, ?_⟩
        rw [List.map_cons, ← keyEq, ← contentEq]
      · rintro ⟨bindings, same⟩
        cases bindings with
        | nil => cases same
        | cons binding others =>
            cases same
            exact ⟨⟨⟨binding.1, rfl⟩, binding.2, rfl⟩, others, rfl⟩

/-- The sequences that a type of sequences accepts, and how they are stored. -/
theorem exists_of_isTextSequence {value : Value} (accepted : isTextSequence value = true) :
    ∃ texts : List String,
      value.iterate? = some (texts.map .text) ∧ value.freezeTop = .tuple (texts.map .text) := by
  cases value with
  | list items =>
      rcases all_isText_iff.1 accepted with ⟨texts, rfl⟩
      exact ⟨texts, rfl, rfl⟩
  | tuple items =>
      rcases all_isText_iff.1 accepted with ⟨texts, rfl⟩
      exact ⟨texts, rfl, rfl⟩
  | null | bool | int | float | text | bytes | dict | map => cases accepted

/-- The mappings that a type of mappings accepts, and how they are stored. -/
theorem exists_of_isTextMapping {value : Value} (accepted : isTextMapping value = true) :
    ∃ bindings : List (String × String),
      value.freezeTop = .map (bindings.map fun binding => (.text binding.1, .text binding.2)) := by
  cases value with
  | dict entries =>
      rcases all_isText_entries_iff.1 accepted with ⟨bindings, rfl⟩
      exact ⟨bindings, rfl⟩
  | map entries =>
      rcases all_isText_entries_iff.1 accepted with ⟨bindings, rfl⟩
      exact ⟨bindings, rfl⟩
  | null | bool | int | float | text | bytes | list | tuple => cases accepted

theorem isTextSequence_tuple (texts : List String) :
    isTextSequence (.tuple (texts.map .text)) = true :=
  all_isText_iff.2 ⟨texts, rfl⟩

theorem accepts_null (type : AttributeType) : type.accepts .null = false := by
  cases type <;> rfl

namespace Stores

variable {type : AttributeType} {value : Value}

theorem accepts (stores : type.Stores value) : type.accepts value = true := by
  cases stores with
  | string | int | bool | label => rfl
  | stringList texts => exact isTextSequence_tuple texts
  | labelList => exact isTextSequence_tuple _
  | stringDict bindings => exact all_isText_entries_iff.2 ⟨bindings, rfl⟩

theorem ne_null (stores : type.Stores value) : value ≠ .null := by
  rintro rfl
  have accepted := stores.accepts
  rw [accepts_null] at accepted
  cases accepted

theorem isFrozen_text (content : String) : (Value.text content).IsFrozen := by
  rw [Value.isFrozen_iff]
  exact ⟨rfl, by simp [Value.members]⟩

theorem isFrozen_tuple (texts : List String) : (Value.tuple (texts.map .text)).IsFrozen := by
  rw [Value.isFrozen_iff]
  refine ⟨rfl, ?_⟩
  intro member memberMem
  rcases List.mem_map.1 memberMem with ⟨content, _, rfl⟩
  exact isFrozen_text content

theorem isFrozen (stores : type.Stores value) : value.IsFrozen := by
  cases stores with
  | string content => exact isFrozen_text content
  | label => exact isFrozen_text _
  | stringList texts => exact isFrozen_tuple texts
  | labelList => exact isFrozen_tuple _
  | int | bool =>
      rw [Value.isFrozen_iff]
      exact ⟨rfl, by simp [Value.members]⟩
  | stringDict bindings =>
      rw [Value.isFrozen_iff]
      refine ⟨rfl, ?_⟩
      intro member memberMem
      simp only [Value.members, List.map_map, List.mem_map] at memberMem
      rcases memberMem with ⟨binding, _, rfl⟩
      exact isFrozen_text binding.2

end Stores

/-- The zero of every type but that of labels is one of the stored values. -/
theorem stores_zero {type : AttributeType} (notLabel : type ≠ .label) :
    type.Stores type.zero := by
  cases type with
  | string => exact .string ""
  | int => exact .int 0
  | bool => exact .bool false
  | stringList => exact .stringList []
  | stringDict => exact .stringDict []
  | labelList =>
      have noText : ∀ text ∈ ([] : List String), Label.IsCanonicalText text := by simp
      exact .labelList noText
  | label => exact absurd rfl notLabel

@[simp]
theorem freeze_zero (type : AttributeType) : type.zero.freeze = type.zero := by
  cases type <;> rfl

end AttributeType

/-! ## Labels -/

namespace Scope

variable {scope : Scope} {repository : RepositoryName}

theorem isCanonicalText_of_canonical {raw text : String}
    (proper : RepositoryName.create scope.base.repository.name = .ok repository)
    (resolved : scope.canonical raw = .ok text) : Label.IsCanonicalText text := by
  rcases exists_of_map_eq_ok resolved with ⟨label, parsed, rfl⟩
  have valid := Label.isValid_of_parse proper parsed
  intro base mapping
  exact ⟨label, valid.parse_canonicalForm base mapping, rfl⟩

theorem canonical_of_isCanonicalText (scope : Scope) {text : String}
    (canonicalText : Label.IsCanonicalText text) : scope.canonical text = .ok text := by
  rcases canonicalText scope.base scope.mapping with ⟨label, parsed, same⟩
  rw [canonical, parsed, Except.map, same]

theorem resolveLabel_text (scope : Scope) (raw : String) :
    scope.resolveLabel (.text raw) = (scope.canonical raw).map .text := rfl

/-- Texts are resolved to labels one by one. -/
theorem exists_labels_of_resolveLabels {raws : List String} {resolved : List Value}
    (succeeded : scope.resolveLabels (raws.map .text) = .ok resolved) :
    ∃ labels : List Label,
      List.Forall₂ (fun raw label => Label.parse raw scope.base scope.mapping = .ok label)
        raws labels ∧
      resolved = labels.map fun label => .text label.canonicalForm := by
  induction raws generalizing resolved with
  | nil =>
      cases succeeded
      exact ⟨[], .nil, rfl⟩
  | cons raw rest ih =>
      rcases exists_of_bind_eq_ok succeeded with ⟨value, first, succeeded⟩
      rcases exists_of_map_eq_ok first with ⟨text, read, rfl⟩
      rcases exists_of_map_eq_ok read with ⟨label, parsed, rfl⟩
      rcases exists_of_bind_eq_ok succeeded with ⟨values, others, succeeded⟩
      rcases ih others with ⟨labels, allParsed, rfl⟩
      cases succeeded
      exact ⟨label :: labels, .cons parsed allParsed, rfl⟩

theorem exists_of_resolveLabels {raws : List String} {resolved : List Value}
    (proper : RepositoryName.create scope.base.repository.name = .ok repository)
    (succeeded : scope.resolveLabels (raws.map .text) = .ok resolved) :
    ∃ texts : List String, resolved = texts.map .text ∧
      ∀ text ∈ texts, Label.IsCanonicalText text := by
  rcases exists_labels_of_resolveLabels succeeded with ⟨labels, parsed, rfl⟩
  have read : List.Forall₂ (fun (label : Label) raw =>
      Label.IsCanonicalText label.canonicalForm ∧
        Label.parse raw scope.base scope.mapping = .ok label) labels raws := by
    refine parsed.flip.imp fun label raw read => ⟨?_, read⟩
    exact isCanonicalText_of_canonical proper (by rw [canonical, read]; rfl)
  refine ⟨labels.map Label.canonicalForm, by rw [List.map_map]; rfl, ?_⟩
  exact List.forall_mem_map.2 ((List.forall₂_and_left labels raws).1 read).1

theorem resolveLabels_of_isCanonicalText (scope : Scope) {texts : List String}
    (canonicalTexts : ∀ text ∈ texts, Label.IsCanonicalText text) :
    scope.resolveLabels (texts.map .text) = .ok (texts.map .text) := by
  induction texts with
  | nil => rfl
  | cons text rest ih =>
      have first := scope.canonical_of_isCanonicalText (canonicalTexts text List.mem_cons_self)
      have others := ih fun other otherMem => canonicalTexts other (List.mem_cons_of_mem _ otherMem)
      simp only [List.map_cons, resolveLabels, resolveLabel_text, first, others]
      rfl

end Scope

/-! ## Given values and defaults -/

namespace Attribute

variable {schema : Attribute} {rule : String} {scope : Scope} {repository : RepositoryName}

theorem normalize_eq_ok_iff {given value : Value} :
    schema.normalize rule scope given = .ok value ↔
      schema.type.accepts given = true ∧
        (scope.resolve schema.type given).map Value.freezeTop = .ok value := by
  by_cases accepted : schema.type.accepts given = true <;> simp [normalize, accepted]

/-- What fits an attribute is stored in the form of its type. -/
theorem stores_of_normalize {given value : Value}
    (proper : RepositoryName.create scope.base.repository.name = .ok repository)
    (normalized : schema.normalize rule scope given = .ok value) : schema.type.Stores value := by
  rcases normalize_eq_ok_iff.1 normalized with ⟨accepted, resolved⟩
  rcases typed : schema.type with _ | _ | _ | _ | _ | _ | _
  all_goals rw [typed] at accepted resolved
  case string =>
    rcases AttributeType.isText_iff.1 accepted with ⟨content, rfl⟩
    cases resolved
    exact .string content
  case int =>
    cases given with
    | int integer =>
        cases resolved
        exact .int integer
    | null | bool | float | text | bytes | list | tuple | dict | map => cases accepted
  case bool =>
    cases given with
    | bool truth =>
        cases resolved
        exact .bool truth
    | null | int | float | text | bytes | list | tuple | dict | map => cases accepted
  case stringList =>
    rcases AttributeType.exists_of_isTextSequence accepted with ⟨texts, _, stored⟩
    cases resolved
    rw [stored]
    exact .stringList texts
  case stringDict =>
    rcases AttributeType.exists_of_isTextMapping accepted with ⟨bindings, stored⟩
    cases resolved
    rw [stored]
    exact .stringDict bindings
  case label =>
    rcases AttributeType.isText_iff.1 accepted with ⟨raw, rfl⟩
    rcases exists_of_map_eq_ok resolved with ⟨label, labelResolved, rfl⟩
    rcases exists_of_map_eq_ok labelResolved with ⟨text, read, rfl⟩
    exact .label (Scope.isCanonicalText_of_canonical proper read)
  case labelList =>
    rcases AttributeType.exists_of_isTextSequence accepted with ⟨raws, items, _⟩
    simp only [Scope.resolve, items] at resolved
    rcases exists_of_map_eq_ok resolved with ⟨list, listResolved, rfl⟩
    rcases exists_of_map_eq_ok listResolved with ⟨labels, read, rfl⟩
    rcases Scope.exists_of_resolveLabels proper read with ⟨texts, rfl, canonicalTexts⟩
    exact .labelList canonicalTexts

/-- A stored value fits its attribute again and is stored as it is. -/
theorem normalize_of_stores (schema : Attribute) (rule : String) (scope : Scope) {value : Value}
    (stores : schema.type.Stores value) : schema.normalize rule scope value = .ok value := by
  rw [normalize_eq_ok_iff]
  refine ⟨stores.accepts, ?_⟩
  rcases typed : schema.type with _ | _ | _ | _ | _ | _ | _
  all_goals
    rw [typed] at stores
    cases stores
  case label text canonicalText =>
    simp only [Scope.resolve, Scope.resolveLabel_text,
      scope.canonical_of_isCanonicalText canonicalText]
    rfl
  case labelList texts canonicalTexts =>
    simp only [Scope.resolve, Value.iterate?,
      scope.resolveLabels_of_isCanonicalText canonicalTexts]
    rfl
  all_goals rfl

/-- The value of an attribute that was given a value, or null. -/
def valueFor (schema : Attribute) (rule : String) (scope : Scope) (given : Value) :
    Except Error Value :=
  if given.isNull then
    if schema.hasLabelDefault then schema.resolvedDefault scope else .ok schema.defaultValue
  else schema.normalize rule scope given

@[simp]
theorem valueFor_null : schema.valueFor rule scope .null =
    if schema.hasLabelDefault then schema.resolvedDefault scope else .ok schema.defaultValue := rfl

theorem valueFor_of_ne_null {given : Value} (present : given ≠ .null) :
    schema.valueFor rule scope given = schema.normalize rule scope given := by
  rw [valueFor, if_neg ((not_congr Value.isNull_iff).2 present)]

/-- Without a default the value is the zero of the type. -/
theorem valueFor_null_of_absent (absent : schema.default = .null) :
    schema.valueFor rule scope .null = .ok schema.type.zero := by
  simp [hasLabelDefault, defaultValue, absent, Value.isNull]

/-- A default that the type accepts counts as if it had been given. -/
theorem valueFor_null_of_accepts (accepted : schema.type.accepts schema.default = true) :
    schema.valueFor rule scope .null = schema.normalize rule scope schema.default := by
  have present : schema.default.isNull = false := by
    rw [← Bool.not_eq_true, Value.isNull_iff]
    intro absent
    rw [absent, AttributeType.accepts_null] at accepted
    cases accepted
  simp only [valueFor_null, hasLabelDefault, defaultValue, resolvedDefault, normalize, accepted,
    present, if_true]
  cases schema.type <;> rfl

/-- A default is resolved as its type asks, whether or not it holds labels. -/
theorem exists_resolved_of_valueFor_null {value : Value} (present : schema.default ≠ .null)
    (found : schema.valueFor rule scope .null = .ok value) :
    ∃ resolved, scope.resolve schema.type schema.default = .ok resolved ∧
      value = resolved.freezeTop := by
  have notNull : schema.default.isNull = false := by
    rw [← Bool.not_eq_true, Value.isNull_iff]
    exact present
  rw [valueFor_null, hasLabelDefault, defaultValue, notNull, Bool.not_false, Bool.and_true] at found
  split at found
  · rcases exists_of_map_eq_ok found with ⟨resolved, resolvedEq, rfl⟩
    exact ⟨resolved, resolvedEq, rfl⟩
  · rename_i plain
    cases found
    refine ⟨schema.default, ?_, rfl⟩
    rcases typed : schema.type with _ | _ | _ | _ | _ | _ | _
    case label | labelList => simp [typed, AttributeType.holdsLabels] at plain
    all_goals rfl

/-- The type of an attribute accepts its default, if there is one. -/
def HasProperDefault (schema : Attribute) : Prop :=
  schema.default = .null ∨ schema.type.accepts schema.default = true

/-- With a proper default, only a label that nobody gives has no value of its type. -/
theorem stores_of_valueFor {given value : Value}
    (proper : RepositoryName.create scope.base.repository.name = .ok repository)
    (properDefault : schema.HasProperDefault)
    (found : schema.valueFor rule scope given = .ok value) :
    schema.type.Stores value ∨
      (given = .null ∧ schema.default = .null ∧ schema.type = .label ∧ value = .null) := by
  by_cases absent : given = .null
  · subst absent
    rcases properDefault with noDefault | accepted
    · rw [valueFor_null_of_absent noDefault] at found
      cases found
      by_cases isLabel : schema.type = .label
      · exact Or.inr ⟨rfl, noDefault, isLabel, by rw [isLabel]; rfl⟩
      · exact Or.inl (AttributeType.stores_zero isLabel)
    · rw [valueFor_null_of_accepts accepted] at found
      exact Or.inl (stores_of_normalize proper found)
  · rw [valueFor_of_ne_null absent] at found
    exact Or.inl (stores_of_normalize proper found)

/-- What an attribute has been given a value for is found again when it is given that value. -/
theorem valueFor_freeze_of_valueFor {given value : Value}
    (proper : RepositoryName.create scope.base.repository.name = .ok repository)
    (properDefault : schema.HasProperDefault)
    (found : schema.valueFor rule scope given = .ok value) :
    schema.valueFor rule scope value.freeze = .ok value := by
  rcases stores_of_valueFor proper properDefault found with stores | ⟨rfl, _, _, rfl⟩
  · rw [stores.isFrozen.freeze_eq, valueFor_of_ne_null stores.ne_null]
    exact schema.normalize_of_stores rule scope stores
  · exact found

end Attribute

end ExternalRepos

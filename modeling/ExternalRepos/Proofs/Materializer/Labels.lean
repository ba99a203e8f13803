import ExternalRepos.Proofs.FirstFault
import ExternalRepos.Proofs.Materializer.Stored

/-!
# Labels in values

A value of an attribute holds labels if its type does: a text is one label, and a
list of labels is whatever the value is made of. `AttributeType.labels` collects
them, so that resolving a value can be described by what reading each of them gives:
it fails at the first label that cannot be read (`Scope.resolve_eq_error_iff`), and
otherwise its result is the normal form of the value (`Scope.Normal`). What an
attribute takes on is the normal form of what was given or else of its default
(`Attribute.Takes`).

This needs every label to be a text. A given value that has passed its check holds
no others; a default is not checked, so `Attribute.HasTextDefault` asks it of those.
-/

namespace ExternalRepos

namespace AttributeType

/-- The labels in a value of an attribute. -/
def labels : AttributeType → Value → List String
  | .label, .text raw => [raw]
  | .labelList, value => (value.iterate?.getD []).filterMap Value.text?
  | _, _ => []

/-- Whatever stands for a label in a value is a text. -/
def TextLabels : AttributeType → Value → Prop
  | .label, value => ∃ raw, value = .text raw
  | .labelList, value => ∃ raws : List String, value.iterate? = some (raws.map .text)
  | _, _ => True

variable {type : AttributeType} {value : Value}

theorem labels_of_iterate? {raws : List String} (items : value.iterate? = some (raws.map .text)) :
    labels .labelList value = raws := by
  have texts : (raws.map Value.text).filterMap Value.text? = raws := by
    rw [List.filterMap_map]
    exact List.filterMap_some
  simp only [labels, items, Option.getD_some, texts]

theorem ne_null_of_accepts (accepted : type.accepts value = true) : value ≠ .null := by
  rintro rfl
  simp [accepts_null] at accepted

theorem textLabels_of_accepts (accepted : type.accepts value = true) : type.TextLabels value := by
  cases type with
  | label => exact isText_iff.1 accepted
  | labelList =>
      rcases exists_of_isTextSequence accepted with ⟨raws, items, _⟩
      exact ⟨raws, items⟩
  | string | int | bool | stringList | stringDict => trivial

end AttributeType

/-! ## Reading labels -/

namespace Scope

variable {scope : Scope} {type : AttributeType} {given value : Value} {failure : Error}

/-- Reading a label in a scope fails. -/
def Unreadable (scope : Scope) (raw : String) (failure : Error) : Prop :=
  Label.parse raw scope.base scope.mapping = .error failure

/-- The stored form of a value: containers cannot change, and labels are canonical. -/
inductive Normal (scope : Scope) : AttributeType → Value → Value → Prop
  | plain {type : AttributeType} {given : Value} (noLabels : type.holdsLabels = false) :
      Normal scope type given given.freezeTop
  | label {raw : String} {label : Label}
      (parsed : Label.parse raw scope.base scope.mapping = .ok label) :
      Normal scope .label (.text raw) (.text label.canonicalForm)
  | labelList {given : Value} {labels : List Label}
      (parsed : List.Forall₂ (fun raw label => Label.parse raw scope.base scope.mapping = .ok label)
        (AttributeType.labelList.labels given) labels) :
      Normal scope .labelList given (.tuple (labels.map fun label => .text label.canonicalForm))

theorem resolveLabel_text_eq_error_iff {raw : String} :
    scope.resolveLabel (.text raw) = .error failure ↔ scope.Unreadable raw failure := by
  rw [resolveLabel_text, canonical, Unreadable]
  cases Label.parse raw scope.base scope.mapping <;> simp [Except.map]

theorem resolveLabels_eq_error_iff (raws : List String) :
    scope.resolveLabels (raws.map .text) = .error failure ↔
      FirstFault scope.Unreadable raws failure := by
  apply eq_error_iff_firstFault fun raws => scope.resolveLabels (raws.map .text)
  · intro failure impossible
    cases impossible
  · intro raw rest failure unreadable
    have failed := resolveLabel_text_eq_error_iff.2 unreadable
    simp only [List.map_cons, resolveLabels, failed]
    rfl
  · intro raw rest failure readable
    rcases resolved : scope.resolveLabel (.text raw) with fault | label
    · exact absurd (resolveLabel_text_eq_error_iff.1 resolved) (readable fault)
    · simp only [List.map_cons, resolveLabels, resolved]
      show (scope.resolveLabels (rest.map .text)).bind _ = _ ↔ _
      rw [bind_eq_error_iff]
      simp [pure, Except.pure]

/-- A value whose labels are texts is resolved up to the first label that cannot be read. -/
theorem resolve_eq_error_iff (texts : type.TextLabels value) :
    scope.resolve type value = .error failure ↔
      FirstFault scope.Unreadable (type.labels value) failure := by
  cases type with
  | label =>
      rcases texts with ⟨raw, rfl⟩
      simp only [resolve, resolveLabel_text_eq_error_iff, AttributeType.labels, FirstFault.cons_iff]
      simp
  | labelList =>
      rcases texts with ⟨raws, items⟩
      rw [AttributeType.labels_of_iterate? items, ← resolveLabels_eq_error_iff]
      simp only [resolve, items]
      cases scope.resolveLabels (raws.map .text) <;> simp [Except.map]
  | string | int | bool | stringList | stringDict => simp [resolve, AttributeType.labels]

theorem normal_of_resolve (texts : type.TextLabels given)
    (resolved : (scope.resolve type given).map Value.freezeTop = .ok value) :
    scope.Normal type given value := by
  cases type with
  | label =>
      rcases texts with ⟨raw, rfl⟩
      rcases exists_of_map_eq_ok resolved with ⟨text, textResolved, rfl⟩
      rcases exists_of_map_eq_ok textResolved with ⟨canonical, read, rfl⟩
      rcases exists_of_map_eq_ok read with ⟨label, parsed, rfl⟩
      exact .label parsed
  | labelList =>
      rcases texts with ⟨raws, items⟩
      simp only [resolve, items] at resolved
      rcases exists_of_map_eq_ok resolved with ⟨list, listResolved, rfl⟩
      rcases exists_of_map_eq_ok listResolved with ⟨values, read, rfl⟩
      rcases exists_labels_of_resolveLabels read with ⟨labels, parsed, rfl⟩
      rw [← AttributeType.labels_of_iterate? items] at parsed
      exact .labelList parsed
  | string | int | bool | stringList | stringDict =>
      cases resolved
      exact .plain rfl

end Scope

/-! ## Given values and defaults -/

namespace Attribute

variable {schema : Attribute} {rule : String} {scope : Scope} {given value : Value}
  {failure : Error}

/-- If there is a default, whatever stands for a label in it is a text. -/
def HasTextDefault (schema : Attribute) : Prop :=
  schema.default = .null ∨ schema.type.TextLabels schema.default

/-- The value of an attribute that was given a value, or null. -/
inductive Takes (schema : Attribute) (scope : Scope) : Value → Value → Prop
  | given {given value : Value} (present : given ≠ .null)
      (normal : scope.Normal schema.type given value) : Takes schema scope given value
  | default {value : Value} (hasDefault : schema.default ≠ .null)
      (normal : scope.Normal schema.type schema.default value) : Takes schema scope .null value
  | zero (noDefault : schema.default = .null) : Takes schema scope .null schema.type.zero

theorem normalize_of_accepts (accepted : schema.type.accepts given = true) :
    schema.normalize rule scope given =
      (scope.resolve schema.type given).map Value.freezeTop := by
  rw [normalize, if_pos accepted]

theorem takes_of_valueFor (textDefault : schema.HasTextDefault)
    (found : schema.valueFor rule scope given = .ok value) : schema.Takes scope given value := by
  by_cases absent : given = .null
  · subst absent
    rcases textDefault with noDefault | texts
    · rw [valueFor_null_of_absent noDefault] at found
      cases found
      exact .zero noDefault
    · by_cases noDefault : schema.default = .null
      · rw [valueFor_null_of_absent noDefault] at found
        cases found
        exact .zero noDefault
      · rcases exists_resolved_of_valueFor_null noDefault found with ⟨resolved, resolvedEq, rfl⟩
        refine .default noDefault (Scope.normal_of_resolve texts ?_)
        rw [resolvedEq]
        rfl
  · rw [valueFor_of_ne_null absent] at found
    rcases normalize_eq_ok_iff.1 found with ⟨accepted, resolved⟩
    exact .given absent
      (Scope.normal_of_resolve (AttributeType.textLabels_of_accepts accepted) resolved)

theorem labels_default_of_plain (plain : schema.hasLabelDefault = false) :
    schema.type.labels schema.default = [] := by
  simp only [hasLabelDefault, Bool.and_eq_false_iff, Bool.not_eq_false', Value.isNull_iff] at plain
  rcases plain with noLabels | noDefault
  · rcases typed : schema.type with _ | _ | _ | _ | _ | _ | _
    case label | labelList => simp [typed, AttributeType.holdsLabels] at noLabels
    all_goals simp [AttributeType.labels]
  · rw [noDefault]
    cases schema.type <;> rfl

theorem resolvedDefault_eq_error_iff (textDefault : schema.HasTextDefault)
    (labels : schema.hasLabelDefault = true) :
    schema.resolvedDefault scope = .error failure ↔
      FirstFault scope.Unreadable (schema.type.labels schema.default) failure := by
  simp only [hasLabelDefault, Bool.and_eq_true, Bool.not_eq_true'] at labels
  rcases textDefault with noDefault | texts
  · simp [noDefault, Value.isNull] at labels
  · rw [resolvedDefault, map_eq_error_iff, Scope.resolve_eq_error_iff texts]

end Attribute

end ExternalRepos

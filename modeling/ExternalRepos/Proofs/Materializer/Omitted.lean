import Mathlib.Data.List.Nodup
import ExternalRepos.Proofs.Materializer.Schema

/-!
# Omitted attributes

An attribute that no keyword gives can be given as null, at any place among the
keywords, and nothing changes at all: the walk through the keywords passes over a
null, and everything after it sees the stored values only. Giving the attribute its
default changes what is stored, but not what is read: for an attribute that need not
be given, what the schema materializer accepts and what the rule reads depend on the
value that `Attribute.valueFor` finds, and that is the same for null and for a proper
default (`Attribute.valueFor_default`).
-/

namespace ExternalRepos

namespace OrderedMap

variable {α : Type} {map : OrderedMap α} {key : String} {value : α}

/-- The map with a new binding at a given place. -/
def insertAt (map : OrderedMap α) (position : Nat) (key : String) (value : α)
    (fresh : key ∉ map.keys) : OrderedMap α where
  entries := map.entries.take position ++ (key, value) :: map.entries.drop position
  keys_nodup := by
    rw [List.map_append, List.map_cons, List.nodup_middle, ← List.map_append,
      List.take_append_drop]
    exact List.nodup_cons.2 ⟨fresh, map.keys_nodup⟩

theorem get?_insertAt {position : Nat} (fresh : key ∉ map.keys) (other : String) :
    (map.insertAt position key value fresh).get? other =
      if other = key then some value else map.get? other := by
  simp only [get?, insertAt, List.lookup_append]
  split
  · rename_i same
    subst same
    have earlier : (map.entries.take position).lookup other = none := by
      rw [lookup_eq_none_iff]
      exact fun keyMem => fresh ((List.take_sublist ..).map Prod.fst |>.subset keyMem)
    rw [earlier, List.lookup_cons_self, Option.none_or]
  · rename_i different
    rw [lookup_cons_of_ne different, ← List.lookup_append, List.take_append_drop]

theorem given_insertAt {map : OrderedMap Value} {position : Nat} {value : Value}
    (fresh : key ∉ map.keys) (other : String) :
    (map.insertAt position key value fresh).given other =
      if other = key then value else map.given other := by
  rw [given, get?_insertAt]
  split <;> rfl

theorem mem_keys_insertAt {position : Nat} (fresh : key ∉ map.keys) {other : String} :
    other ∈ (map.insertAt position key value fresh).keys ↔ other = key ∨ other ∈ map.keys := by
  rw [← not_iff_not, ← get?_eq_none_iff, get?_insertAt, not_or, ← get?_eq_none_iff]
  split <;> simp_all

end OrderedMap

namespace Attribute

variable {schema : Attribute} {rule : String} {scope : Scope} {given : Value}

/-- Only the outermost container is changed, and every type takes it in both its forms. -/
theorem accepts_freezeTop (type : AttributeType) (given : Value) :
    type.accepts given.freezeTop = type.accepts given := by
  cases type <;> cases given <;> rfl

theorem resolve_freezeTop (scope : Scope) {type : AttributeType}
    (accepted : type.accepts given = true) :
    (scope.resolve type given.freezeTop).map Value.freezeTop =
      (scope.resolve type given).map Value.freezeTop := by
  cases type <;> cases given <;> first | rfl | cases accepted

theorem normalize_freezeTop (accepted : schema.type.accepts given = true) :
    schema.normalize rule scope given.freezeTop = schema.normalize rule scope given := by
  have frozenAccepted := (accepts_freezeTop schema.type given).trans accepted
  rw [normalize, if_pos frozenAccepted, resolve_freezeTop scope accepted, normalize,
    if_pos accepted]

/-- To give a proper default, or what an unset attribute shows of it, is to give nothing. -/
theorem valueFor_default (properDefault : schema.HasProperDefault)
    (isDefault : given = schema.default ∨ given = schema.defaultValue) :
    schema.valueFor rule scope given = schema.valueFor rule scope .null := by
  by_cases absent : given = .null
  · rw [absent]
  · rw [valueFor_of_ne_null absent]
    rcases properDefault with noDefault | accepted
    · have isZero : given = schema.type.zero := by
        rcases isDefault with rfl | rfl
        · exact absurd noDefault absent
        · simp [defaultValue, noDefault, Value.isNull]
      have notLabel : schema.type ≠ .label := by
        intro isLabel
        rw [isZero, isLabel] at absent
        exact absent rfl
      rw [isZero, valueFor_null_of_absent noDefault]
      exact schema.normalize_of_stores rule scope (AttributeType.stores_zero notLabel)
    · have hasDefault : schema.default ≠ .null := by
        intro noDefault
        rw [noDefault, AttributeType.accepts_null] at accepted
        cases accepted
      rw [valueFor_null_of_accepts accepted]
      rcases isDefault with rfl | rfl
      · rfl
      · rw [defaultValue, if_neg ((not_congr Value.isNull_iff).2 hasDefault),
          normalize_freezeTop accepted]

end Attribute

namespace RuleClass

variable {ruleClass : RuleClass} {scope : Scope} {schema : Attribute} {key : String}

/-- The walk through the keywords passes over a null. -/
theorem explicitValues_insert_null (scope : Scope)
    (known : ruleClass.attribute? key = some schema) (before after : List (String × Value)) :
    ruleClass.explicitValues scope (before ++ (key, .null) :: after) =
      ruleClass.explicitValues scope (before ++ after) := by
  induction before with
  | nil =>
      simp only [List.nil_append, explicitValues, known]
      rfl
  | cons entry rest ih => simp only [List.cons_append, explicitValues, ih]

section Insert

variable {values : OrderedMap Value} {given : Value} (schemaMem : schema ∈ ruleClass.attributes)
  (omitted : schema.name ∉ values.keys)
  (unnoticed : schema.valueFor ruleClass.name scope given =
    schema.valueFor ruleClass.name scope .null)
  (position : Nat)

include schemaMem unnoticed

/-- Each attribute has the value that it has without the new keyword. -/
theorem valueFor_given_insertAt {other : Attribute} (otherMem : other ∈ ruleClass.attributes) :
    other.valueFor ruleClass.name scope
        ((values.insertAt position schema.name given omitted).given other.name) =
      other.valueFor ruleClass.name scope (values.given other.name) := by
  rw [OrderedMap.given_insertAt]
  split
  · rename_i same
    rw [eq_of_name_eq schemaMem otherMem same, OrderedMap.given_of_not_mem omitted, unnoticed]
  · rfl

theorem admits_insertAt_iff (optional : schema.mandatory = false) :
    ruleClass.Admits scope (values.insertAt position schema.name given omitted) ↔
      ruleClass.Admits scope values := by
  have same : ∀ other ∈ ruleClass.attributes, _ := fun _ otherMem =>
    valueFor_given_insertAt schemaMem omitted unnoticed position otherMem
  have given : ∀ other ∈ ruleClass.attributes, other.mandatory = true →
      (values.insertAt position schema.name given omitted).given other.name =
        values.given other.name := by
    intro other otherMem mandatory
    rw [OrderedMap.given_insertAt, if_neg]
    intro same
    rw [eq_of_name_eq schemaMem otherMem same, optional] at mandatory
    cases mandatory
  constructor
  · intro admits
    refine admits.congr ?_ (fun other otherMem => (same other otherMem).symm)
      fun other otherMem mandatory => (given other otherMem mandatory).symm
    intro key keyMem
    exact admits.known key ((OrderedMap.mem_keys_insertAt omitted).2 (Or.inr keyMem))
  · intro admits
    refine admits.congr ?_ same given
    intro key keyMem notName
    rcases (OrderedMap.mem_keys_insertAt omitted).1 keyMem with rfl | earlier
    · exact ⟨schema, schemaMem, rfl⟩
    · exact admits.known key earlier notName

end Insert

end RuleClass

namespace Materializer

variable {request : Request} {schema : Attribute} {rule other : Rule}

/-- Rules read alike if every attribute has the same value for them. -/
theorem read_eq_of_valueFor_eq {larger : OrderedMap Value}
    (named : larger.given "name" = request.values.given "name")
    (same : ∀ schema ∈ request.ruleClass.attributes,
      schema.valueFor request.ruleClass.name request.scope (larger.given schema.name) =
        schema.valueFor request.ruleClass.name request.scope (request.values.given schema.name))
    (succeeded : (Materializer.schema request).outcome = .ok rule)
    (otherSucceeded : (Materializer.schema { request with values := larger }).outcome = .ok other)
    (key : String) : other.read key = rule.read key := by
  by_cases known : key ∈ request.ruleClass.attributeNames
  · rcases List.mem_map.1 known with ⟨schema, schemaMem, rfl⟩
    rcases List.mem_cons.1 schemaMem with rfl | schemaMem
    · have name := given_name_of_schema_eq_ok succeeded
      rw [← named, given_name_of_schema_eq_ok otherSucceeded] at name
      show other.read "name" = rule.read "name"
      rw [Rule.read_name, Rule.read_name, name]
    · rcases exists_read_of_schema_eq_ok succeeded schemaMem with ⟨value, valueEq, read⟩
      rcases exists_read_of_schema_eq_ok otherSucceeded schemaMem with ⟨again, againEq, readAgain⟩
      have values : Except.ok again = Except.ok value :=
        againEq.symm.trans ((same schema schemaMem).trans valueEq)
      rw [read, readAgain, values]
  · rw [read_unknown_of_schema_eq_ok succeeded known,
      read_unknown_of_schema_eq_ok otherSucceeded known]

/--
Omitting an attribute, giving it as null and giving it its default are the same. An
attribute that need not be given and has a proper default, or none, is added to
keywords without it, at any place. As null it changes nothing: there are the same
events and the same error or the same rule. With its default, be it as the schema has
it or as an unset attribute shows it (which is the zero of the type if there is none),
a rule is made if one is made without it, and both rules read alike at every key.
-/
theorem schema_omitted (request : Request) {schema : Attribute}
    (schemaMem : schema ∈ request.ruleClass.attributes) (optional : schema.mandatory = false)
    (properDefault : schema.HasProperDefault) (omitted : schema.name ∉ request.values.keys)
    (position : Nat) :
    Materializer.schema
        { request with values := request.values.insertAt position schema.name .null omitted } =
      Materializer.schema request ∧
    ∀ given, given = schema.default ∨ given = schema.defaultValue →
      let explicit : Request :=
        { request with values := request.values.insertAt position schema.name given omitted }
      ((∃ rule, (Materializer.schema explicit).outcome = .ok rule) ↔
        ∃ rule, (Materializer.schema request).outcome = .ok rule) ∧
      ∀ rule other, (Materializer.schema request).outcome = .ok rule →
        (Materializer.schema explicit).outcome = .ok other →
        ∀ key, other.read key = rule.read key := by
  constructor
  · have passed := RuleClass.explicitValues_insert_null request.scope
      (RuleClass.attribute?_of_mem schemaMem) (request.values.entries.take position)
      (request.values.entries.drop position)
    rw [List.take_append_drop] at passed
    simp only [Materializer.schema, OrderedMap.insertAt, passed]
  · intro given isDefault explicit
    have unnoticed : schema.valueFor request.ruleClass.name request.scope given = _ :=
      Attribute.valueFor_default properDefault isDefault
    have notName : "name" ≠ schema.name := (RuleClass.name_ne_of_mem schemaMem).symm
    have named : explicit.values.given "name" = request.values.given "name" := by
      rw [OrderedMap.given_insertAt, if_neg notName]
    constructor
    · rw [exists_schema_eq_ok_iff_admits, exists_schema_eq_ok_iff_admits, named]
      refine and_congr_left' ?_
      exact RuleClass.admits_insertAt_iff schemaMem omitted unnoticed position optional
    · intro rule other succeeded explicitSucceeded
      refine read_eq_of_valueFor_eq named ?_ succeeded explicitSucceeded
      intro further furtherMem
      exact RuleClass.valueFor_given_insertAt schemaMem omitted unnoticed position furtherMem

/-- A list of labels between two other keywords, as null and as the tuple that it is stored as. -/
theorem schema_omitted_of_label_default :
    let schema : Attribute := ⟨"deps", .labelList, .list [.text "x"], false, some "gone", ""⟩
    let ruleClass : RuleClass :=
      ⟨"archive", default, [schema, ⟨"url", .string, .null, true, none, ""⟩], "", by decide⟩
    let request (values : OrderedMap Value) : Request :=
      ⟨⟨.root, .empty⟩, default, "1.0", default, "", ruleClass, values⟩
    let values : OrderedMap Value := .ofList [("name", .text "tool"), ("url", .text "u")]
    schema ∈ ruleClass.attributes ∧ schema.mandatory = false ∧ schema.HasProperDefault ∧
    ∃ omitted : schema.name ∉ values.keys,
      let given (value : Value) := request (values.insertAt 1 schema.name value omitted)
      Materializer.schema (given .null) = Materializer.schema (request values) ∧
      ∃ rule other, (Materializer.schema (request values)).outcome = .ok rule ∧
        (Materializer.schema (given (.tuple [.text "x"]))).outcome = .ok other ∧
        ∀ key, other.read key = rule.read key := by
  intro schema ruleClass request values
  have schemaMem : schema ∈ ruleClass.attributes := List.mem_cons_self
  have properDefault : schema.HasProperDefault := Or.inr rfl
  have omitted : schema.name ∉ values.keys := by decide
  rcases schema_omitted (request values) schemaMem rfl properDefault omitted 1 with
    ⟨asNull, asDefault⟩
  rcases asDefault (.tuple [.text "x"]) (Or.inr rfl) with ⟨_, alike⟩
  exact ⟨schemaMem, rfl, properDefault, omitted, asNull, _, _, rfl, rfl, alike _ _ rfl rfl⟩

end Materializer

end ExternalRepos

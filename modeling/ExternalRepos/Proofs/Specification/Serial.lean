import ExternalRepos.Proofs.Value.Frozen
import ExternalRepos.Proofs.Value.Table
import ExternalRepos.Specification.Untyped

/-!
# Serial forms of specifications

A specification that has been constructed, from typed parts or out of data, has
no attribute called `name`, and its attribute values are frozen
(`UntypedSpecification.IsConstructed`). These two facts are all that reading its
serial form depends on, so every constructed specification is read back from it.

In the other direction the three fields of a serial form may come in any order.
The keys of attributes take no part: they are compared with `name` and otherwise
left as they are, whatever values they hold.
-/

namespace ExternalRepos

namespace UntypedSpecification

/-- What every constructed specification has: no `name` among its attributes, and frozen values. -/
structure IsConstructed (specification : UntypedSpecification) : Prop where
  no_name : ∀ entry ∈ specification.attributes, entry.1 ≠ .text "name"
  frozen : ∀ entry ∈ specification.attributes, entry.2.IsFrozen

/-- The fields of a serial form in the order in which they are written. -/
def fields (bzlFile ruleClassName : Value) (attributes : List (Value × Value)) :
    List (String × Value) :=
  [(bzlFileKey, bzlFile), (ruleClassNameKey, ruleClassName), (attributesKey, .dict attributes)]

theorem toValue_eq_fields (specification : UntypedSpecification) :
    specification.toValue = .dict (Value.ofTextEntries (fields specification.bzlFile
      specification.ruleClassName (Value.thawEntries specification.attributes))) := rfl

theorem holds?_name_iff {entries : List (Value × Value)} :
    (Value.dict entries).holds? "name" = some false ↔
      ∀ entry ∈ entries, entry.1 ≠ .text "name" := by
  simp only [Value.holds?, Value.iterate?, Option.map_some, Option.some.injEq, List.any_eq_false,
    List.mem_map, Value.equal_text_iff]
  constructor
  · intro absent entry entryMem
    exact absent entry.1 ⟨entry, entryMem, rfl⟩
  · rintro absent key ⟨entry, entryMem, rfl⟩
    exact absent entry entryMem

theorem attributeEntries_of_no_name {entries : List (Value × Value)}
    (absent : ∀ entry ∈ entries, entry.1 ≠ .text "name") :
    attributeEntries (.dict entries) = .ok entries := by
  have holds := holds?_name_iff.2 absent
  simp only [attributeEntries, holds, Value.entries?]

theorem no_name_of_attributeEntries {given : Value} {entries : List (Value × Value)}
    (read : attributeEntries given = .ok entries) :
    ∀ entry ∈ entries, entry.1 ≠ .text "name" := by
  have holds : given.holds? "name" = some false ∧ given.entries? = some entries := by
    unfold attributeEntries at read
    split at read
    · cases read
    · cases read
    · cases read
    · rename_i present bound
      cases read
      exact ⟨present, bound⟩
  apply holds?_name_iff.1
  rcases holds with ⟨absent, bound⟩
  cases given with
  | dict own =>
      cases bound
      exact absent
  | map own =>
      cases bound
      exact absent
  | null | bool | int | float | text | bytes | list | tuple => cases bound

/-- The fields of a serial form are read whatever their order. -/
theorem ofValue_of_perm {bzlFile ruleClassName : Value} {attributes : List (Value × Value)}
    {bindings : List (String × Value)}
    (absent : ∀ entry ∈ attributes, entry.1 ≠ .text "name")
    (arranged : bindings.Perm (fields bzlFile ruleClassName attributes)) :
    ofValue (.dict (Value.ofTextEntries bindings)) =
      .ok ⟨bzlFile, ruleClassName, Value.freezeEntries attributes⟩ := by
  have distinct : (bindings.map Prod.fst).Nodup := by
    rw [(arranged.map Prod.fst).nodup_iff]
    simp [fields, bzlFileKey, ruleClassNameKey, attributesKey]
  have bound : ∀ binding ∈ fields bzlFile ruleClassName attributes,
      bindings.lookup binding.1 = some binding.2 := by
    intro binding bindingMem
    exact OrderedMap.lookup_of_mem distinct (arranged.mem_iff.2 bindingMem)
  have file := bound (bzlFileKey, bzlFile) (by simp [fields])
  have ruleClass := bound (ruleClassNameKey, ruleClassName) (by simp [fields])
  have given := bound (attributesKey, .dict attributes) (by simp [fields])
  simp only [ofValue, Value.entries?, requiredField, attributesField, Value.field?_ofTextEntries,
    file, ruleClass, given, attributeEntries_of_no_name absent]
  rfl

theorem isConstructed_of_freezeEntries {bzlFile ruleClassName : Value}
    {attributes : List (Value × Value)} (absent : ∀ entry ∈ attributes, entry.1 ≠ .text "name") :
    IsConstructed ⟨bzlFile, ruleClassName, Value.freezeEntries attributes⟩ := by
  constructor
  · intro entry entryMem
    simp only [Value.freezeEntries_eq_map, List.mem_map] at entryMem
    rcases entryMem with ⟨source, sourceMem, rfl⟩
    exact absent source sourceMem
  · intro entry entryMem
    simp only [Value.freezeEntries_eq_map, List.mem_map] at entryMem
    rcases entryMem with ⟨source, sourceMem, rfl⟩
    exact source.2.isFrozen_freeze

theorem isConstructed_of_ofValue {data : Value} {specification : UntypedSpecification}
    (read : ofValue data = .ok specification) : specification.IsConstructed := by
  unfold ofValue at read
  split at read
  · cases read
  · rcases bzlFile : requiredField data bzlFileKey with failure | file
    · rw [bzlFile] at read
      cases read
    · rcases ruleClassName : requiredField data ruleClassNameKey with failure | ruleClass
      · rw [bzlFile, ruleClassName] at read
        cases read
      · rcases found : attributesField data with failure | attributes
        · rw [bzlFile, ruleClassName, found] at read
          cases read
        · rw [bzlFile, ruleClassName, found] at read
          cases read
          apply isConstructed_of_freezeEntries
          unfold attributesField at found
          split at found
          · cases found
            simp
          · exact no_name_of_attributeEntries found

/-- A constructed specification is read back from its serial form. -/
theorem IsConstructed.ofValue_toValue {specification : UntypedSpecification}
    (constructed : specification.IsConstructed) :
    ofValue specification.toValue = .ok specification := by
  have absent : ∀ entry ∈ Value.thawEntries specification.attributes, entry.1 ≠ .text "name" := by
    intro entry entryMem
    simp only [Value.thawEntries_eq_map, List.mem_map] at entryMem
    rcases entryMem with ⟨source, sourceMem, rfl⟩
    exact constructed.no_name source sourceMem
  have restored : Value.freezeEntries (Value.thawEntries specification.attributes) =
      specification.attributes := by
    rw [Value.thawEntries_eq_map, Value.freezeEntries_eq_map, List.map_map]
    apply Value.map_entries_eq_self (Value.freeze ∘ Value.thaw)
    intro value valueMem
    rcases List.mem_map.1 valueMem with ⟨entry, entryMem, rfl⟩
    exact (constructed.frozen entry entryMem).freeze_thaw
  rw [toValue_eq_fields, ofValue_of_perm absent (List.Perm.refl _), restored]

end UntypedSpecification

namespace Specification

theorem create_eq_ok_iff {bzlFile ruleClassName : String} {attributes : OrderedMap Value}
    {specification : Specification} :
    create bzlFile ruleClassName attributes = .ok specification ↔
      "name" ∉ attributes.keys ∧ specification =
        ⟨bzlFile, ruleClassName, attributes.mapValues fun _ value => value.freeze⟩ := by
  by_cases named : "name" ∈ attributes.keys
  · have contained := OrderedMap.contains_iff.2 named
    simp [create, contained, named]
  · have absent : attributes.contains "name" = false := by
      rw [← Bool.not_eq_true, OrderedMap.contains_iff]
      exact named
    simp [create, absent, named, eq_comm]

theorem isConstructed_of_create {bzlFile ruleClassName : String} {attributes : OrderedMap Value}
    {specification : Specification}
    (created : create bzlFile ruleClassName attributes = .ok specification) :
    specification.untyped.IsConstructed := by
  rcases create_eq_ok_iff.1 created with ⟨absent, rfl⟩
  have same : Value.ofTextEntries (attributes.mapValues fun _ value => value.freeze).entries =
      Value.freezeEntries (Value.ofTextEntries attributes.entries) := by
    simp [Value.ofTextEntries, OrderedMap.mapValues]
  rw [untyped, same]
  apply UntypedSpecification.isConstructed_of_freezeEntries
  intro entry entryMem
  rcases List.mem_map.1 entryMem with ⟨binding, bindingMem, rfl⟩
  intro named
  apply absent
  rw [← Value.text.inj named]
  exact List.mem_map_of_mem bindingMem

/--
Serial forms and specifications determine each other. Every constructed
specification is read back from its serial form as it is: the same file, the same
rule class, and the same attribute values in the same order at every depth. A
serial form with exactly the three fields is given again by what is read from it,
with its fields in their own order, if its attributes have no `name` and nothing
closed to changes among their values. Constructed specifications hold nothing
that can be changed, and freezing twice is freezing once.
-/
theorem serial_round_trip :
    (∀ (bzlFile ruleClassName : String) (attributes : OrderedMap Value)
      (specification : Specification),
      create bzlFile ruleClassName attributes = .ok specification →
        UntypedSpecification.ofValue specification.toValue =
          .ok ⟨.text specification.bzlFile, .text specification.ruleClassName,
            Value.ofTextEntries specification.attributes.entries⟩ ∧
        ∀ entry ∈ specification.attributes.entries, entry.2.IsFrozen) ∧
    (∀ (data : Value) (specification : UntypedSpecification),
      UntypedSpecification.ofValue data = .ok specification →
        UntypedSpecification.ofValue specification.toValue = .ok specification ∧
        ∀ entry ∈ specification.attributes, entry.2.IsFrozen) ∧
    (∀ (bzlFile ruleClassName : Value) (attributes : List (Value × Value))
      (bindings : List (String × Value)),
      (∀ entry ∈ attributes, entry.1 ≠ .text "name") →
      (Value.dict attributes).IsThawed →
      bindings.Perm (UntypedSpecification.fields bzlFile ruleClassName attributes) →
        (UntypedSpecification.ofValue (.dict (Value.ofTextEntries bindings))).map
            UntypedSpecification.toValue =
          .ok (.dict (Value.ofTextEntries
            (UntypedSpecification.fields bzlFile ruleClassName attributes)))) ∧
    ∀ value : Value, value.freeze.freeze = value.freeze := by
  refine ⟨?_, ?_, ?_, Value.freeze_freeze⟩
  · intro bzlFile ruleClassName attributes specification created
    have constructed := isConstructed_of_create created
    refine ⟨constructed.ofValue_toValue, ?_⟩
    intro entry entryMem
    exact constructed.frozen (.text entry.1, entry.2) (List.mem_map_of_mem entryMem)
  · intro data specification read
    have constructed := UntypedSpecification.isConstructed_of_ofValue read
    exact ⟨constructed.ofValue_toValue, constructed.frozen⟩
  · intro bzlFile ruleClassName attributes bindings absent thawed arranged
    have inside := (Value.isThawed_iff.1 thawed).2
    have restored : Value.thawEntries (Value.freezeEntries attributes) = attributes := by
      rw [Value.freezeEntries_eq_map, Value.thawEntries_eq_map, List.map_map]
      apply Value.map_entries_eq_self (Value.thaw ∘ Value.freeze)
      intro value valueMem
      exact (inside value valueMem).thaw_freeze
    rw [UntypedSpecification.ofValue_of_perm absent arranged]
    simp only [Except.map, UntypedSpecification.toValue_eq_fields, restored]

/-- A tuple inside a list inside a mapping, and a mapping with a tuple for a key. -/
theorem serial_round_trip_of_nested_values :
    let given : OrderedMap Value :=
      .ofList [("a", .dict [(.text "b", .list [.tuple [.int 1, .null]])]), ("c", .list [])]
    let stored : OrderedMap Value :=
      .ofList [("a", .map [(.text "b", .tuple [.tuple [.int 1, .null]])]), ("c", .tuple [])]
    let specification : Specification := ⟨"@@//:x.bzl", "archive", stored⟩
    let keyed : List (Value × Value) :=
      [(.text "a", .list [.dict [(.tuple [.int 1], .list [.bool true])]])]
    let fields := UntypedSpecification.fields (.text "@@//:x.bzl") (.text "archive") keyed
    create "@@//:x.bzl" "archive" given = .ok specification ∧
    UntypedSpecification.ofValue specification.toValue = .ok specification.untyped ∧
    (Value.dict keyed).IsThawed ∧
    (UntypedSpecification.ofValue (.dict (Value.ofTextEntries fields.reverse))).map
      UntypedSpecification.toValue = .ok (.dict (Value.ofTextEntries fields)) := by
  intro given stored specification keyed fields
  rcases serial_round_trip with ⟨ofCreated, _, ofData, _⟩
  have created : create "@@//:x.bzl" "archive" given = .ok specification := rfl
  have absent : ∀ entry ∈ keyed, entry.1 ≠ .text "name" := by simp [keyed]
  have thawed : (Value.dict keyed).IsThawed := (Value.dict keyed).isFrozen_freeze.isThawed_thaw
  refine ⟨created, (ofCreated _ _ given specification created).1, thawed, ?_⟩
  exact ofData _ _ keyed fields.reverse absent thawed fields.reverse_perm

end Specification

end ExternalRepos

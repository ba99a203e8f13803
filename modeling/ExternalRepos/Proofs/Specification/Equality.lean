import ExternalRepos.Mapping
import ExternalRepos.Proofs.Specification.Serial
import ExternalRepos.Proofs.Value.Equality

/-!
# Equal specifications and mappings

Specifications are compared by their attributes as one mapping, and the names of
attributes are texts, so two of them are equal when they have equally many
attributes and every attribute of the one has an equal value in the other
(`equal_ofTextEntries_iff`). Then the names are the same up to their order, which is all
that hashing takes from the attributes. Among specifications of plain values
equality is an equivalence because it is one among plain values, and it
disregards in which way the values were given when a specification is created.

A repository mapping is compared by its bindings in any order and its owner, and
its hash is taken of the sorted bindings and the owner. Both say the same.
-/

namespace ExternalRepos

namespace Specification

/-- Every attribute has a plain value. -/
def IsPlain (specification : Specification) : Prop :=
  ∀ entry ∈ specification.attributes.entries, entry.2.IsPlain

/-- Text keys are equal when they are the same, so they are distinct in an ordered map. -/
theorem isPlain_dict_ofTextEntries {attributes : OrderedMap Value}
    (plain : ∀ entry ∈ attributes.entries, entry.2.IsPlain) :
    (Value.dict (Value.ofTextEntries attributes.entries)).IsPlain := by
  simp only [Value.isPlain_dict_iff, Value.ofTextEntries, List.forall_mem_map, List.pairwise_map]
  refine ⟨fun _ _ => .leaf rfl, plain, ?_⟩
  refine (List.pairwise_map.1 attributes.keys_nodup).imp ?_
  intro entry later different
  rw [← Bool.not_eq_true, Value.equal_text_iff, Value.text.injEq]
  exact different

theorem IsPlain.attributesValue {specification : Specification} (plain : specification.IsPlain) :
    specification.attributesValue.IsPlain :=
  (Value.Respelled.mapping _).isPlain_iff.1 (isPlain_dict_ofTextEntries plain)

theorem equal_ofTextEntries_iff {attributes others : OrderedMap Value} :
    Value.equal (.map (Value.ofTextEntries attributes.entries))
        (.map (Value.ofTextEntries others.entries)) = true ↔
      attributes.size = others.size ∧
      ∀ entry ∈ attributes.entries, ∃ value, others.get? entry.1 = some value ∧
        Value.equal entry.2 value = true := by
  rw [Value.equal_mapping_iff rfl]
  simp only [Value.entries?, Value.ofTextEntries, Option.some.injEq, exists_eq_left',
    List.length_map, List.forall_mem_map, Value.EqualEntry, OrderedMap.size,
    OrderedMap.get?_eq_some_iff]
  simp [Value.equal_text_iff]

theorem keys_perm_of_equal_ofTextEntries {attributes others : OrderedMap Value}
    (same : Value.equal (.map (Value.ofTextEntries attributes.entries))
      (.map (Value.ofTextEntries others.entries)) = true) : attributes.keys.Perm others.keys := by
  rcases equal_ofTextEntries_iff.1 same with ⟨size, bound⟩
  have subset : attributes.keys ⊆ others.keys := by
    intro key keyMem
    rcases List.mem_map.1 keyMem with ⟨entry, entryMem, rfl⟩
    rcases bound entry entryMem with ⟨value, present, _⟩
    exact List.mem_map.2 ⟨(entry.1, value), OrderedMap.get?_eq_some_iff.1 present, rfl⟩
  refine (List.subperm_of_subset attributes.keys_nodup subset).perm_of_length_le ?_
  simp only [OrderedMap.keys, List.length_map]
  exact Nat.le_of_eq size.symm

theorem equal_iff {left right : Specification} :
    left.equal right = true ↔ left.bzlFile = right.bzlFile ∧
      left.ruleClassName = right.ruleClassName ∧
      Value.equal left.attributesValue right.attributesValue = true := by
  simp [equal, and_assoc]

/-- The hash of a specification does not depend on the order of its attributes. -/
theorem hashKey_eq_of_keys_perm {left right : Specification}
    (bzlFile : left.bzlFile = right.bzlFile)
    (ruleClassName : left.ruleClassName = right.ruleClassName)
    (arranged : left.attributes.keys.Perm right.attributes.keys) :
    left.hashKey = right.hashKey := by
  have sorted := OrderedMap.mergeSort_eq_of_perm id (fun _ _ _ _ same => same) arranged
  simp only [hashKey, bzlFile, ruleClassName]
  exact congrArg _ (congrArg _ sorted)

theorem hashKey_eq_of_equal {left right : Specification} (same : left.equal right = true) :
    left.hashKey = right.hashKey := by
  rcases equal_iff.1 same with ⟨bzlFile, ruleClassName, attributes⟩
  exact hashKey_eq_of_keys_perm bzlFile ruleClassName (keys_perm_of_equal_ofTextEntries attributes)

/-! ### The same attributes in another order -/

/--
Equality of specifications that share their values. Mappings and sequences take what
they share for equal without comparing it, so here a value that is not a number is
equal to itself.
-/
def equalShared (left right : Specification) : Bool :=
  left.bzlFile = right.bzlFile && left.ruleClassName = right.ruleClassName &&
    left.attributes.size = right.attributes.size &&
    left.attributes.entries.all fun entry => (right.attributes.get? entry.1).any fun other =>
      entry.2 = other || Value.equal entry.2 other

section Rearranged

variable {left right : Specification} (bzlFile : left.bzlFile = right.bzlFile)
  (ruleClassName : left.ruleClassName = right.ruleClassName)
  (same : ∀ key, left.attributes.get? key = right.attributes.get? key)

include bzlFile ruleClassName same

theorem equalShared_of_get? : left.equalShared right = true := by
  have arranged := OrderedMap.perm_entries_iff.2 same
  simp only [equalShared, Bool.and_eq_true, decide_eq_true_eq, List.all_eq_true, and_assoc]
  refine ⟨bzlFile, ruleClassName, arranged.length_eq, ?_⟩
  intro entry entryMem
  rw [← same, OrderedMap.get?_eq_some_iff.2 entryMem]
  simp

/-- The order of the attributes does not matter to what a specification is equal to. -/
theorem equal_of_get? : left.equal right = left.equal left := by
  have arranged := OrderedMap.perm_entries_iff.2 same
  have size : left.attributes.size = right.attributes.size := arranged.length_eq
  rw [Bool.eq_iff_iff, equal_iff, equal_iff]
  simp only [attributesValue, equal_ofTextEntries_iff, bzlFile, ruleClassName, same, size]

theorem hashKey_eq_of_get? : left.hashKey = right.hashKey :=
  hashKey_eq_of_keys_perm bzlFile ruleClassName
    ((OrderedMap.perm_entries_iff.2 same).map Prod.fst)

end Rearranged

/-! ### The same attributes given in another way -/

theorem freeze_ofTextEntries (attributes : OrderedMap Value) :
    (Value.dict (Value.ofTextEntries attributes.entries)).freeze =
      .map (Value.ofTextEntries (attributes.mapValues fun _ value => value.freeze).entries) := by
  simp [Value.freeze, Value.ofTextEntries, OrderedMap.mapValues]

theorem isPlain_of_create {bzlFile ruleClassName : String} {attributes : OrderedMap Value}
    {specification : Specification}
    (created : create bzlFile ruleClassName attributes = .ok specification)
    (plain : ∀ entry ∈ attributes.entries, entry.2.IsPlain) : specification.IsPlain := by
  rcases create_eq_ok_iff.1 created with ⟨_, rfl⟩
  simp only [IsPlain, OrderedMap.mapValues, List.forall_mem_map]
  intro entry entryMem
  exact (plain entry entryMem).freeze

theorem plain_of_respelled {attributes others : OrderedMap Value}
    (plain : ∀ entry ∈ attributes.entries, entry.2.IsPlain)
    (respelled : (Value.dict (Value.ofTextEntries attributes.entries)).Respelled
      (.dict (Value.ofTextEntries others.entries))) :
    ∀ entry ∈ others.entries, entry.2.IsPlain := by
  have othersPlain := respelled.isPlain_iff.1 (isPlain_dict_ofTextEntries plain)
  intro entry entryMem
  exact (Value.isPlain_dict_iff.1 othersPlain).2.1 (.text entry.1, entry.2)
    (List.mem_map_of_mem entryMem)

/--
However plain attributes are given, there is a `name` among them or there is none,
and the specifications that are created of them are equal.
-/
theorem create_respelled {attributes others : OrderedMap Value}
    (plain : ∀ entry ∈ attributes.entries, entry.2.IsPlain)
    (respelled : (Value.dict (Value.ofTextEntries attributes.entries)).Respelled
      (.dict (Value.ofTextEntries others.entries))) (bzlFile ruleClassName : String) :
    (create bzlFile ruleClassName attributes = .error .reservedName ∧
      create bzlFile ruleClassName others = .error .reservedName) ∨
    ∃ left right, create bzlFile ruleClassName attributes = .ok left ∧
      create bzlFile ruleClassName others = .ok right ∧ left.equal right = true := by
  have frozen := respelled.equal_freeze (isPlain_dict_ofTextEntries plain)
  rw [freeze_ofTextEntries, freeze_ofTextEntries] at frozen
  have keys := keys_perm_of_equal_ofTextEntries frozen
  simp only [OrderedMap.keys_mapValues] at keys
  by_cases named : "name" ∈ attributes.keys
  · left
    rw [create, if_pos (OrderedMap.contains_iff.2 named), create,
      if_pos (OrderedMap.contains_iff.2 (keys.mem_iff.1 named))]
    exact ⟨rfl, rfl⟩
  · right
    refine ⟨_, _, create_eq_ok_iff.2 ⟨named, rfl⟩,
      create_eq_ok_iff.2 ⟨mt keys.mem_iff.2 named, rfl⟩, ?_⟩
    exact equal_iff.2 ⟨rfl, rfl, frozen⟩

end Specification

namespace RepositoryMapping

theorem equal_iff_perm {left right : RepositoryMapping} :
    left.equal right = true ↔
      left.owner = right.owner ∧ left.entries.entries.Perm right.entries.entries := by
  simp only [equal, Bool.and_eq_true, decide_eq_true_eq, List.all_eq_true, and_assoc]
  constructor
  · rintro ⟨owner, size, bound⟩
    exact ⟨owner, OrderedMap.perm_entries_of_subset size bound⟩
  · rintro ⟨owner, arranged⟩
    refine ⟨owner, arranged.length_eq, ?_⟩
    intro entry entryMem
    exact OrderedMap.get?_eq_some_iff.2 (arranged.mem_iff.1 entryMem)

theorem hashKey_eq_iff_perm {left right : RepositoryMapping} :
    left.hashKey = right.hashKey ↔
      left.owner = right.owner ∧ left.entries.entries.Perm right.entries.entries := by
  rw [hashKey, hashKey, Prod.mk.injEq, OrderedMap.mergeSort_entries_eq_iff, and_comm]

end RepositoryMapping

namespace Specification

/--
Equality and hashing agree. Among specifications of plain values equality is
reflexive, symmetric and transitive, and equal specifications are hashed alike.
The way in which the attributes are given, with lists or tuples, with either kind
of mapping and with entries in any order, decides neither whether a specification
can be created nor what it is equal to, and what is created of plain values has
plain values. Two repository mappings are equal exactly when they are hashed alike.
-/
theorem equal_lawful :
    (∀ specification : Specification, specification.IsPlain →
      specification.equal specification = true) ∧
    (∀ left right : Specification, left.IsPlain → right.IsPlain →
      left.equal right = true → right.equal left = true) ∧
    (∀ left middle right : Specification, left.IsPlain → middle.IsPlain → right.IsPlain →
      left.equal middle = true → middle.equal right = true → left.equal right = true) ∧
    (∀ left right : Specification, left.equal right = true → left.hashKey = right.hashKey) ∧
    (∀ (bzlFile ruleClassName : String) (attributes others : OrderedMap Value),
      (∀ entry ∈ attributes.entries, entry.2.IsPlain) →
      (Value.dict (Value.ofTextEntries attributes.entries)).Respelled
        (.dict (Value.ofTextEntries others.entries)) →
      (create bzlFile ruleClassName attributes = .error .reservedName ∧
        create bzlFile ruleClassName others = .error .reservedName) ∨
      ∃ left right, create bzlFile ruleClassName attributes = .ok left ∧
        create bzlFile ruleClassName others = .ok right ∧
        left.IsPlain ∧ right.IsPlain ∧ left.equal right = true) ∧
    ∀ left right : RepositoryMapping, left.equal right = true ↔ left.hashKey = right.hashKey := by
  refine ⟨?_, ?_, ?_, fun _ _ => hashKey_eq_of_equal, ?_, ?_⟩
  · intro specification plain
    exact equal_iff.2 ⟨rfl, rfl, plain.attributesValue.equal_self⟩
  · intro left right leftPlain rightPlain same
    rcases equal_iff.1 same with ⟨bzlFile, ruleClassName, attributes⟩
    exact equal_iff.2 ⟨bzlFile.symm, ruleClassName.symm,
      leftPlain.attributesValue.equal_symm rightPlain.attributesValue attributes⟩
  · intro left middle right leftPlain middlePlain rightPlain first second
    rcases equal_iff.1 first with ⟨bzlFile, ruleClassName, attributes⟩
    rcases equal_iff.1 second with ⟨bzlFile', ruleClassName', attributes'⟩
    exact equal_iff.2 ⟨bzlFile.trans bzlFile', ruleClassName.trans ruleClassName',
      leftPlain.attributesValue.equal_trans middlePlain.attributesValue
        rightPlain.attributesValue attributes attributes'⟩
  · intro bzlFile ruleClassName attributes others plain respelled
    have othersPlain : ∀ entry ∈ others.entries, entry.2.IsPlain :=
      plain_of_respelled plain respelled
    rcases create_respelled plain respelled bzlFile ruleClassName with refused | created
    · exact Or.inl refused
    · rcases created with ⟨left, right, leftCreated, rightCreated, same⟩
      exact Or.inr ⟨left, right, leftCreated, rightCreated, isPlain_of_create leftCreated plain,
        isPlain_of_create rightCreated othersPlain, same⟩
  · intro left right
    rw [RepositoryMapping.equal_iff_perm, RepositoryMapping.hashKey_eq_iff_perm]

/-- A list in a mapping with an integer and a tuple for keys, and the same given backwards. -/
theorem equal_lawful_of_nested_values :
    let inner : List (Value × Value) := [(.int 1, .list [.null]), (.tuple [.text "k"], .bool true)]
    let turned : List (Value × Value) :=
      [(.tuple [.text "k"], .bool true), (.int 1, .tuple [.null])]
    let given : OrderedMap Value := .ofList [("a", .dict inner), ("b", .list [])]
    let others : OrderedMap Value := .ofList [("b", .list []), ("a", .map turned)]
    let left : Specification :=
      ⟨"@@//:x.bzl", "archive", given.mapValues fun _ value => value.freeze⟩
    let right : Specification :=
      ⟨"@@//:x.bzl", "archive", others.mapValues fun _ value => value.freeze⟩
    (∀ entry ∈ given.entries, entry.2.IsPlain) ∧
    (Value.dict (Value.ofTextEntries given.entries)).Respelled
      (.dict (Value.ofTextEntries others.entries)) ∧
    left.IsPlain ∧ right.IsPlain ∧ left.equal left = true ∧ left.equal right = true ∧
    right.equal left = true ∧ right.equal right = true ∧ left.hashKey = right.hashKey := by
  intro inner turned given others left right
  rcases equal_lawful with ⟨refl, symm, trans, hashed, created, _⟩
  have innerPlain : (Value.dict inner).IsPlain := by
    have leaves : (Value.int 1).IsPlain ∧ (Value.text "k").IsPlain ∧ Value.null.IsPlain ∧
        (Value.bool true).IsPlain := ⟨.leaf rfl, .leaf rfl, .leaf rfl, .leaf rfl⟩
    have distinct : inner.Pairwise fun entry later => entry.1.equal later.1 = false := by decide
    refine Value.isPlain_dict_iff.2 ⟨?_, ?_, distinct⟩
    · simp [inner, Value.isPlain_tuple_iff, leaves]
    · simp [inner, Value.isPlain_list_iff, leaves]
  have plain : ∀ entry ∈ given.entries, entry.2.IsPlain := by
    have entries : given.entries = [("a", .dict inner), ("b", .list [])] := rfl
    simp [entries, innerPlain, Value.isPlain_list_iff]
  have turning : (Value.dict inner).Respelled (.map turned) :=
    ((Value.Respelled.entry [] (.int 1) _ (.sequence [.null])).trans
      (.reordered (.swap _ _ _))).trans (.mapping turned)
  have respelled : (Value.dict (Value.ofTextEntries given.entries)).Respelled
      (.dict (Value.ofTextEntries others.entries)) :=
    (Value.Respelled.entry [] (.text "a") _ turning).trans (.reordered (.swap _ _ _))
  rcases created "@@//:x.bzl" "archive" given others plain respelled with
    ⟨refused, _⟩ | ⟨_, _, leftCreated, rightCreated, leftPlain, rightPlain, same⟩
  · cases refused
  · cases leftCreated
    cases rightCreated
    have back := symm left right leftPlain rightPlain same
    exact ⟨plain, respelled, leftPlain, rightPlain, refl left leftPlain, same, back,
      trans right left right rightPlain leftPlain rightPlain back same, hashed left right same⟩

end Specification

end ExternalRepos

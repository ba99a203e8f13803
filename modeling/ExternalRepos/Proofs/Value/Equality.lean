import Mathlib.Data.List.Forall2
import Mathlib.Data.List.Zip
import ExternalRepos.Proofs.Value.Frozen
import ExternalRepos.Value.Equality

/-!
# Equality of plain values is an equivalence

A value is plain when it holds no float, not even in a key, and no mapping with
two equal keys. On plain values `equal` is reflexive, transitive and symmetric.

Equality of two mappings is written one-sidedly: every entry on the left has an
equal one on the right, and there are equally many. That this can be turned
around is a counting argument. Two entries on the left with the same partner
would have equal keys, so the partners differ, and then nothing on the right is
left over (`exists_partner_of_apart`). Keys are values themselves, so the
argument for a mapping needs symmetry and transitivity for its keys, and the
induction is on the derivation that the left side is plain.

The same value can be given in several ways: as a list or a tuple, as one or the
other kind of mapping, with its entries in this or that order. `Respelled`
relates what differs in such points only, at any value position, and freezing
sends related values to equal ones.
-/

namespace ExternalRepos.Value

/-! ## Leaves -/

/-- What a leaf other than a float stands for: truth values are integers. -/
def leaf? : Value → Option Value
  | .null => some .null
  | .bool truth => some (.int (if truth then 1 else 0))
  | .int integer => some (.int integer)
  | .text content => some (.text content)
  | .bytes content => some (.bytes content)
  | _ => none

/-- No float anywhere, keys included, and no two equal keys in one mapping. -/
inductive IsPlain : Value → Prop
  | leaf {value : Value} (isLeaf : value.leaf?.isSome = true) : IsPlain value
  | list {items : List Value} (inside : ∀ item ∈ items, IsPlain item) : IsPlain (.list items)
  | tuple {items : List Value} (inside : ∀ item ∈ items, IsPlain item) : IsPlain (.tuple items)
  | mapping {value : Value} {entries : List (Value × Value)} (bound : value.entries? = some entries)
      (keys : ∀ entry ∈ entries, IsPlain entry.1) (values : ∀ entry ∈ entries, IsPlain entry.2)
      (distinct : entries.Pairwise fun entry later => equal entry.1 later.1 = false) : IsPlain value

theorem IsPlain.ne_float {value : Value} (plain : value.IsPlain) (number : Binary64) :
    value ≠ .float number := by
  rintro rfl
  cases plain with
  | leaf isLeaf => simp [leaf?] at isLeaf
  | mapping bound => simp [entries?] at bound

theorem isPlain_list_iff {items : List Value} :
    (Value.list items).IsPlain ↔ ∀ item ∈ items, item.IsPlain := by
  constructor
  · intro plain
    cases plain with
    | leaf isLeaf => simp [leaf?] at isLeaf
    | list inside => exact inside
    | mapping bound => simp [entries?] at bound
  · exact .list

theorem isPlain_tuple_iff {items : List Value} :
    (Value.tuple items).IsPlain ↔ ∀ item ∈ items, item.IsPlain := by
  constructor
  · intro plain
    cases plain with
    | leaf isLeaf => simp [leaf?] at isLeaf
    | tuple inside => exact inside
    | mapping bound => simp [entries?] at bound
  · exact .tuple

theorem isPlain_mapping_iff {value : Value} {entries : List (Value × Value)}
    (bound : value.entries? = some entries) :
    value.IsPlain ↔ (∀ entry ∈ entries, entry.1.IsPlain) ∧ (∀ entry ∈ entries, entry.2.IsPlain) ∧
      entries.Pairwise fun entry later => equal entry.1 later.1 = false := by
  constructor
  · intro plain
    cases plain with
    | leaf isLeaf => cases value <;> simp [leaf?, entries?] at isLeaf bound
    | list => simp [entries?] at bound
    | tuple => simp [entries?] at bound
    | mapping same keys values distinct =>
        cases bound.symm.trans same
        exact ⟨keys, values, distinct⟩
  · rintro ⟨keys, values, distinct⟩
    exact .mapping bound keys values distinct

/-! ## Equality by the parts -/

/-- Two entries bind equal keys to equal values. -/
def EqualEntry (entry other : Value × Value) : Prop :=
  equal entry.1 other.1 = true ∧ equal entry.2 other.2 = true

theorem equalItems_iff {items others : List Value} :
    equalItems items others = true ↔
      List.Forall₂ (fun item other => equal item other = true) items others := by
  induction items generalizing others with
  | nil => cases others <;> simp [equalItems]
  | cons item rest ih =>
      cases others with
      | nil => simp [equalItems]
      | cons other otherRest => simp [equalItems, ih]

theorem equalEntries_iff {entries others : List (Value × Value)} :
    equalEntries entries others = true ↔
      ∀ entry ∈ entries, ∃ other ∈ others, EqualEntry entry other := by
  induction entries with
  | nil => simp [equalEntries]
  | cons entry rest ih =>
      rw [equalEntries, Bool.and_eq_true, ih, List.forall_mem_cons]
      simp only [List.any_eq_true, Bool.and_eq_true, EqualEntry]

theorem equal_leaf_iff {left right leaf : Value} (isLeaf : left.leaf? = some leaf)
    (notFloat : ∀ number : Binary64, right ≠ .float number) :
    equal left right = true ↔ right.leaf? = some leaf := by
  cases left <;> simp only [leaf?, Option.some.injEq, reduceCtorEq] at isLeaf <;> subst isLeaf <;>
    cases right <;>
      simp_all [equal, equalLeaves, integer?, leaf?, eq_comm]

theorem equal_list_iff {items : List Value} {right : Value} :
    equal (.list items) right = true ↔ ∃ others, right = .list others ∧
      List.Forall₂ (fun item other => equal item other = true) items others := by
  cases right <;> simp [equal, equalLeaves, integer?, equalItems_iff]

theorem equal_tuple_iff {items : List Value} {right : Value} :
    equal (.tuple items) right = true ↔ ∃ others, right = .tuple others ∧
      List.Forall₂ (fun item other => equal item other = true) items others := by
  cases right <;> simp [equal, equalLeaves, integer?, equalItems_iff]

theorem equal_mapping_iff {left right : Value} {entries : List (Value × Value)}
    (bound : left.entries? = some entries) :
    equal left right = true ↔ ∃ others, right.entries? = some others ∧
      entries.length = others.length ∧
      ∀ entry ∈ entries, ∃ other ∈ others, EqualEntry entry other := by
  cases left <;> simp only [entries?, Option.some.injEq, reduceCtorEq] at bound <;> subst bound <;>
    simp [equal, equalEntries_iff, Option.any_eq_true]

/-! ## Reflexivity and transitivity -/

theorem IsPlain.equal_self {value : Value} (plain : value.IsPlain) : equal value value = true := by
  induction plain with
  | leaf isLeaf =>
      rcases Option.isSome_iff_exists.1 isLeaf with ⟨leaf, leafEq⟩
      exact (equal_leaf_iff leafEq (IsPlain.leaf isLeaf).ne_float).2 leafEq
  | list _ ih => exact equal_list_iff.2 ⟨_, rfl, List.forall₂_same.2 ih⟩
  | tuple _ ih => exact equal_tuple_iff.2 ⟨_, rfl, List.forall₂_same.2 ih⟩
  | mapping bound _ _ _ keysIH valuesIH =>
      refine (equal_mapping_iff bound).2 ⟨_, bound, rfl, ?_⟩
      intro entry entryMem
      exact ⟨entry, entryMem, keysIH entry entryMem, valuesIH entry entryMem⟩

theorem forall₂_trans_of_mem {α : Type} {related : α → α → Prop} {lefts middles rights : List α}
    (step : ∀ left ∈ lefts, ∀ middle ∈ middles, ∀ right ∈ rights,
      related left middle → related middle right → related left right)
    (first : List.Forall₂ related lefts middles) (second : List.Forall₂ related middles rights) :
    List.Forall₂ related lefts rights := by
  induction first generalizing rights with
  | nil =>
      cases second
      exact .nil
  | cons head tail ih =>
      cases second with
      | cons head' tail' =>
          refine .cons (step _ (by simp) _ (by simp) _ (by simp) head head') (ih ?_ tail')
          intro left leftMem middle middleMem right rightMem
          exact step left (by simp [leftMem]) middle (by simp [middleMem]) right
            (by simp [rightMem])

theorem IsPlain.equal_trans {left middle right : Value} (plain : left.IsPlain)
    (middlePlain : middle.IsPlain) (rightPlain : right.IsPlain)
    (first : equal left middle = true) (second : equal middle right = true) :
    equal left right = true := by
  induction plain generalizing middle right with
  | leaf isLeaf =>
      rcases Option.isSome_iff_exists.1 isLeaf with ⟨leaf, leafEq⟩
      have middleLeaf := (equal_leaf_iff leafEq middlePlain.ne_float).1 first
      have rightLeaf := (equal_leaf_iff middleLeaf rightPlain.ne_float).1 second
      exact (equal_leaf_iff leafEq rightPlain.ne_float).2 rightLeaf
  | list _ ih =>
      rcases equal_list_iff.1 first with ⟨middles, rfl, toMiddles⟩
      rcases equal_list_iff.1 second with ⟨rights, rfl, toRights⟩
      refine equal_list_iff.2 ⟨rights, rfl, forall₂_trans_of_mem ?_ toMiddles toRights⟩
      intro item itemMem middle middleMem other otherMem
      exact ih item itemMem (isPlain_list_iff.1 middlePlain middle middleMem)
        (isPlain_list_iff.1 rightPlain other otherMem)
  | tuple _ ih =>
      rcases equal_tuple_iff.1 first with ⟨middles, rfl, toMiddles⟩
      rcases equal_tuple_iff.1 second with ⟨rights, rfl, toRights⟩
      refine equal_tuple_iff.2 ⟨rights, rfl, forall₂_trans_of_mem ?_ toMiddles toRights⟩
      intro item itemMem middle middleMem other otherMem
      exact ih item itemMem (isPlain_tuple_iff.1 middlePlain middle middleMem)
        (isPlain_tuple_iff.1 rightPlain other otherMem)
  | mapping bound _ _ _ keysIH valuesIH =>
      rcases (equal_mapping_iff bound).1 first with ⟨middles, middleBound, size, toMiddles⟩
      rcases (equal_mapping_iff middleBound).1 second with ⟨rights, rightBound, size', toRights⟩
      rcases (isPlain_mapping_iff middleBound).1 middlePlain with ⟨middleKeys, middleValues, _⟩
      rcases (isPlain_mapping_iff rightBound).1 rightPlain with ⟨rightKeys, rightValues, _⟩
      refine (equal_mapping_iff bound).2 ⟨rights, rightBound, size.trans size', ?_⟩
      intro entry entryMem
      rcases toMiddles entry entryMem with ⟨middle, middleMem, key, value⟩
      rcases toRights middle middleMem with ⟨other, otherMem, key', value'⟩
      refine ⟨other, otherMem, ?_, ?_⟩
      · exact keysIH entry entryMem (middleKeys middle middleMem) (rightKeys other otherMem)
          key key'
      · exact valuesIH entry entryMem (middleValues middle middleMem) (rightValues other otherMem)
          value value'

/-! ## Symmetry -/

/--
If everything in a list has a partner, no two share one, and the list of the
partners is no longer, then nothing in it is left over.
-/
theorem exists_partner_of_apart {α β : Type} {related : α → β → Prop} {items : List α}
    {others : List β} (partnered : ∀ item ∈ items, ∃ other ∈ others, related item other)
    (apart : items.Pairwise fun item later =>
      ∀ other ∈ others, related item other → ¬ related later other)
    (noLonger : others.length ≤ items.length) :
    ∀ other ∈ others, ∃ item ∈ items, related item other := by
  induction items generalizing others with
  | nil =>
      have none : others = [] := List.eq_nil_of_length_eq_zero (Nat.le_zero.1 noLonger)
      simp [none]
  | cons first rest ih =>
      rcases List.pairwise_cons.1 apart with ⟨firstApart, restApart⟩
      rcases partnered first (by simp) with ⟨partner, partnerMem, partnerRelated⟩
      rcases List.append_of_mem partnerMem with ⟨before, after, rfl⟩
      -- The others of `rest` are among what remains when the partner of `first` is taken out.
      have restPartnered : ∀ item ∈ rest, ∃ other ∈ before ++ after, related item other := by
        intro item itemMem
        rcases partnered item (by simp [itemMem]) with ⟨other, otherMem, otherRelated⟩
        have notPartner : other ≠ partner := by
          rintro rfl
          exact firstApart item itemMem other otherMem partnerRelated otherRelated
        refine ⟨other, ?_, otherRelated⟩
        simpa [notPartner] using otherMem
      have restCovers := ih restPartnered
        (restApart.imp fun distinct other otherMem => distinct other (by
          rcases List.mem_append.1 otherMem with inBefore | inAfter
          · simp [inBefore]
          · simp [inAfter]))
        (by simp only [List.length_append, List.length_cons] at noLonger ⊢; omega)
      intro other otherMem
      by_cases isPartner : other = partner
      · exact ⟨first, by simp, isPartner ▸ partnerRelated⟩
      · rcases restCovers other (by simpa [isPartner] using otherMem) with ⟨item, itemMem, found⟩
        exact ⟨item, by simp [itemMem], found⟩

theorem forall₂_swap_of_mem {α : Type} {related : α → α → Prop} {lefts rights : List α}
    (swap : ∀ left ∈ lefts, ∀ right ∈ rights, related left right → related right left)
    (pointwise : List.Forall₂ related lefts rights) : List.Forall₂ related rights lefts := by
  rcases List.forall₂_iff_zip.1 pointwise with ⟨size, paired⟩
  refine List.forall₂_iff_zip.2 ⟨size.symm, ?_⟩
  intro right left pairMem
  have flipped : (left, right) ∈ lefts.zip rights := by
    rw [← List.zip_swap]
    exact List.mem_map_of_mem pairMem
  rcases List.of_mem_zip flipped with ⟨leftMem, rightMem⟩
  exact swap left leftMem right rightMem (paired flipped)

theorem IsPlain.equal_symm {left right : Value} (plain : left.IsPlain) (rightPlain : right.IsPlain)
    (same : equal left right = true) : equal right left = true := by
  induction plain generalizing right with
  | leaf isLeaf =>
      rcases Option.isSome_iff_exists.1 isLeaf with ⟨leaf, leafEq⟩
      have rightLeaf := (equal_leaf_iff leafEq rightPlain.ne_float).1 same
      exact (equal_leaf_iff rightLeaf (IsPlain.leaf isLeaf).ne_float).2 leafEq
  | list _ ih =>
      rcases equal_list_iff.1 same with ⟨others, rfl, pointwise⟩
      refine equal_list_iff.2 ⟨_, rfl, forall₂_swap_of_mem ?_ pointwise⟩
      intro item itemMem other otherMem
      exact ih item itemMem (isPlain_list_iff.1 rightPlain other otherMem)
  | tuple _ ih =>
      rcases equal_tuple_iff.1 same with ⟨others, rfl, pointwise⟩
      refine equal_tuple_iff.2 ⟨_, rfl, forall₂_swap_of_mem ?_ pointwise⟩
      intro item itemMem other otherMem
      exact ih item itemMem (isPlain_tuple_iff.1 rightPlain other otherMem)
  | @mapping _ entries bound keys _ distinct keysIH valuesIH =>
      rcases (equal_mapping_iff bound).1 same with ⟨others, rightBound, size, partnered⟩
      rcases (isPlain_mapping_iff rightBound).1 rightPlain with ⟨rightKeys, rightValues, _⟩
      have apart : entries.Pairwise fun entry later =>
          ∀ other ∈ others, EqualEntry entry other → ¬ EqualEntry later other := by
        refine distinct.imp_of_mem ?_
        intro entry later entryMem laterMem unequal other otherMem first second
        have back := keysIH later laterMem (rightKeys other otherMem) second.1
        have shared := (keys entry entryMem).equal_trans (rightKeys other otherMem)
          (keys later laterMem) first.1 back
        rw [unequal] at shared
        cases shared
      refine (equal_mapping_iff rightBound).2 ⟨entries, bound, size.symm, ?_⟩
      intro other otherMem
      rcases exists_partner_of_apart partnered apart (Nat.le_of_eq size.symm) other otherMem with
        ⟨entry, entryMem, key, value⟩
      exact ⟨entry, entryMem, keysIH entry entryMem (rightKeys other otherMem) key,
        valuesIH entry entryMem (rightValues other otherMem) value⟩

/-! ## Several ways to give one value -/

/--
The same value given in another way: a list for a tuple, one kind of mapping for
the other, or the entries of a mapping in another order, at any value position
and as often as wanted. Keys stay as they are.
-/
inductive Respelled : Value → Value → Prop
  | refl (value : Value) : Respelled value value
  | symm {left right : Value} (respelled : Respelled left right) : Respelled right left
  | trans {left middle right : Value} (first : Respelled left middle)
      (second : Respelled middle right) : Respelled left right
  | sequence (items : List Value) : Respelled (.list items) (.tuple items)
  | mapping (entries : List (Value × Value)) : Respelled (.dict entries) (.map entries)
  | reordered {entries others : List (Value × Value)} (arranged : entries.Perm others) :
      Respelled (.dict entries) (.dict others)
  | item (before : List Value) {left right : Value} (after : List Value)
      (inside : Respelled left right) :
      Respelled (.list (before ++ left :: after)) (.list (before ++ right :: after))
  | entry (before : List (Value × Value)) (key : Value) {left right : Value}
      (after : List (Value × Value)) (inside : Respelled left right) :
      Respelled (.dict (before ++ (key, left) :: after)) (.dict (before ++ (key, right) :: after))

theorem isPlain_dict_iff {entries : List (Value × Value)} :
    (Value.dict entries).IsPlain ↔ (∀ entry ∈ entries, entry.1.IsPlain) ∧
      (∀ entry ∈ entries, entry.2.IsPlain) ∧
      entries.Pairwise fun entry later => equal entry.1 later.1 = false :=
  isPlain_mapping_iff rfl

theorem equal_comm_of_isPlain {left right : Value} (plain : left.IsPlain)
    (rightPlain : right.IsPlain) : equal left right = equal right left :=
  Bool.eq_iff_iff.2 ⟨plain.equal_symm rightPlain, rightPlain.equal_symm plain⟩

/-- Keys that differ pairwise do so in any order. -/
theorem pairwise_unequal_of_perm {entries others : List (Value × Value)}
    (keys : ∀ entry ∈ entries, entry.1.IsPlain) (arranged : entries.Perm others)
    (distinct : entries.Pairwise fun entry later => equal entry.1 later.1 = false) :
    others.Pairwise fun entry later => equal entry.1 later.1 = false := by
  have bothWays : entries.Pairwise fun entry later =>
      equal entry.1 later.1 = false ∧ equal later.1 entry.1 = false := by
    refine distinct.imp_of_mem ?_
    intro entry later entryMem laterMem unequal
    exact ⟨unequal, equal_comm_of_isPlain (keys entry entryMem) (keys later laterMem) ▸ unequal⟩
  exact ((arranged.pairwise_iff fun unequal => unequal.symm).1 bothWays).imp And.left

theorem IsPlain.dict_of_perm {entries others : List (Value × Value)}
    (plain : (Value.dict entries).IsPlain) (arranged : entries.Perm others) :
    (Value.dict others).IsPlain := by
  rcases isPlain_dict_iff.1 plain with ⟨keys, values, distinct⟩
  refine isPlain_dict_iff.2 ⟨?_, ?_, pairwise_unequal_of_perm keys arranged distinct⟩
  · intro entry entryMem
    exact keys entry (arranged.mem_iff.2 entryMem)
  · intro entry entryMem
    exact values entry (arranged.mem_iff.2 entryMem)

theorem Respelled.isPlain_iff {left right : Value} (respelled : left.Respelled right) :
    left.IsPlain ↔ right.IsPlain := by
  induction respelled with
  | refl value => exact Iff.rfl
  | symm _ ih => exact ih.symm
  | trans _ _ first second => exact first.trans second
  | sequence items => exact isPlain_list_iff.trans isPlain_tuple_iff.symm
  | mapping entries => exact isPlain_dict_iff.trans (isPlain_mapping_iff rfl).symm
  | reordered arranged =>
      exact ⟨fun plain => plain.dict_of_perm arranged,
        fun plain => plain.dict_of_perm arranged.symm⟩
  | item before after _ ih =>
      simp only [isPlain_list_iff, List.forall_mem_append, List.forall_mem_cons, ih]
  | entry before key after _ ih =>
      simp only [isPlain_dict_iff, List.forall_mem_append, List.forall_mem_cons,
        List.pairwise_append, List.pairwise_cons, ih]

/-- Freezing changes no key, so it keeps a value plain. -/
theorem IsPlain.freeze {value : Value} (plain : value.IsPlain) : value.freeze.IsPlain := by
  induction plain with
  | @leaf value isLeaf =>
      cases value <;> exact .leaf isLeaf
  | list _ ih => simpa [Value.freeze, isPlain_tuple_iff] using ih
  | tuple _ ih => simpa [Value.freeze, isPlain_tuple_iff] using ih
  | @mapping value entries bound keys _ distinct _ valuesIH =>
      have frozen : value.freeze = .map (freezeEntries entries) := by
        cases value <;> simp_all [entries?, Value.freeze]
      rw [frozen, isPlain_mapping_iff rfl, freezeEntries_eq_map]
      simp only [List.forall_mem_map, List.pairwise_map]
      exact ⟨keys, valuesIH, distinct⟩

/-- What the same value is frozen to is equal, however it was given. -/
theorem Respelled.equal_freeze {left right : Value} (respelled : left.Respelled right)
    (plain : left.IsPlain) : equal left.freeze right.freeze = true := by
  induction respelled with
  | refl value => exact plain.freeze.equal_self
  | symm respelled ih =>
      have leftPlain := respelled.isPlain_iff.2 plain
      exact leftPlain.freeze.equal_symm plain.freeze (ih leftPlain)
  | trans first second firstIH secondIH =>
      have middlePlain := first.isPlain_iff.1 plain
      have rightPlain := second.isPlain_iff.1 middlePlain
      exact plain.freeze.equal_trans middlePlain.freeze rightPlain.freeze (firstIH plain)
        (secondIH middlePlain)
  | sequence items => exact plain.freeze.equal_self
  | mapping entries => exact plain.freeze.equal_self
  | reordered arranged =>
      rcases isPlain_dict_iff.1 plain with ⟨keys, values, _⟩
      simp only [freeze, freezeEntries_eq_map]
      refine (equal_mapping_iff rfl).2 ⟨_, rfl, by simp [arranged.length_eq], ?_⟩
      simp only [List.forall_mem_map]
      intro entry entryMem
      refine ⟨_, List.mem_map_of_mem (arranged.mem_iff.1 entryMem), ?_⟩
      exact ⟨(keys entry entryMem).equal_self, (values entry entryMem).freeze.equal_self⟩
  | item before after _ ih =>
      simp only [isPlain_list_iff, List.forall_mem_append, List.forall_mem_cons] at plain
      rcases plain with ⟨beforePlain, leftPlain, afterPlain⟩
      have unchanged : ∀ items : List Value, (∀ item ∈ items, item.IsPlain) →
          List.Forall₂ (fun item other => equal item other = true) (items.map Value.freeze)
            (items.map Value.freeze) := by
        intro items itemsPlain
        simp only [List.forall₂_same, List.forall_mem_map]
        intro item itemMem
        exact (itemsPlain item itemMem).freeze.equal_self
      simp only [freeze, freezeItems_eq_map, List.map_append, List.map_cons]
      exact equal_tuple_iff.2 ⟨_, rfl, List.rel_append (unchanged before beforePlain)
        (.cons (ih leftPlain) (unchanged after afterPlain))⟩
  | @entry before key left right after _ ih =>
      rcases isPlain_dict_iff.1 plain with ⟨keys, values, _⟩
      simp only [freeze, freezeEntries_eq_map]
      refine (equal_mapping_iff rfl).2 ⟨_, rfl, by simp, ?_⟩
      simp only [List.forall_mem_map]
      intro entry entryMem
      have keyEqual := (keys entry entryMem).equal_self
      by_cases moved : entry = (key, left)
      · subst moved
        refine ⟨(key, right.freeze), by simp, keyEqual, ?_⟩
        exact ih (values (key, left) entryMem)
      · have stays : entry ∈ before ++ (key, right) :: after := by
          rcases List.mem_append.1 entryMem with inBefore | inAfter
          · simp [inBefore]
          · simp [(List.mem_cons.1 inAfter).resolve_left moved]
        refine ⟨_, List.mem_map_of_mem stays, keyEqual, ?_⟩
        exact (values entry entryMem).freeze.equal_self

end ExternalRepos.Value

import Mathlib.Data.List.Perm.Subperm
import ExternalRepos.OrderedMap

/-!
# Looking up the bindings of ordered maps

Looking up a key and going through the bindings see the same map, because no key
is bound twice. Binding a new key adds to the end and leaves the bindings before
it alone, so a map that only ever gets new keys is a log. A map of a list in which
keys are repeated has lost the bindings that were overwritten, and nothing else
(`perm_entries_ofList`). Two maps that bind the same differ in the order of their
bindings only, and sorting by the keys takes that away (`mergeSort_entries_eq_iff`).
-/

namespace ExternalRepos.OrderedMap

variable {α β ε : Type}

theorem lookup_cons_of_ne {entries : List (String × α)} {key first : String} {value : α}
    (different : key ≠ first) : ((first, value) :: entries).lookup key = entries.lookup key := by
  rw [List.lookup_cons, beq_false_of_ne different]

theorem lookup_eq_none_iff {entries : List (String × α)} {key : String} :
    entries.lookup key = none ↔ key ∉ entries.map Prod.fst := by
  induction entries with
  | nil => simp
  | cons entry rest ih =>
      rcases entry with ⟨first, value⟩
      by_cases here : key = first
      · subst here
        simp
      · rw [lookup_cons_of_ne here, ih]
        simp [here]

theorem lookup_of_mem {entries : List (String × α)} {key : String} {value : α}
    (nodup : (entries.map Prod.fst).Nodup) (entryMem : (key, value) ∈ entries) :
    entries.lookup key = some value := by
  induction entries with
  | nil => simp at entryMem
  | cons entry rest ih =>
      rcases entry with ⟨first, bound⟩
      simp only [List.map_cons, List.nodup_cons] at nodup
      rcases List.mem_cons.1 entryMem with here | later
      · rcases Prod.mk.inj here with ⟨rfl, rfl⟩
        simp
      · have different : key ≠ first := by
          rintro rfl
          exact nodup.1 (List.mem_map_of_mem later)
        rw [lookup_cons_of_ne different]
        exact ih nodup.2 later

theorem mem_of_lookup {entries : List (String × α)} {key : String} {value : α}
    (bound : entries.lookup key = some value) : (key, value) ∈ entries := by
  induction entries with
  | nil => simp at bound
  | cons entry rest ih =>
      rcases entry with ⟨first, present⟩
      by_cases here : key = first
      · subst here
        simp only [List.lookup_cons, beq_self_eq_true, Option.some.injEq] at bound
        simp [bound]
      · rw [lookup_cons_of_ne here] at bound
        exact List.mem_cons_of_mem _ (ih bound)

theorem entries_nodup (map : OrderedMap α) : map.entries.Nodup :=
  List.Pairwise.of_map Prod.fst (fun _ _ => mt (congrArg Prod.fst)) map.keys_nodup

theorem get?_eq_none_iff {map : OrderedMap α} {key : String} :
    map.get? key = none ↔ key ∉ map.keys :=
  lookup_eq_none_iff

theorem get?_eq_some_iff {map : OrderedMap α} {key : String} {value : α} :
    map.get? key = some value ↔ (key, value) ∈ map.entries :=
  ⟨mem_of_lookup, lookup_of_mem map.keys_nodup⟩

theorem exists_get?_of_mem_keys {map : OrderedMap α} {key : String} (keyMem : key ∈ map.keys) :
    ∃ value, map.get? key = some value := by
  rcases List.mem_map.1 keyMem with ⟨entry, entryMem, rfl⟩
  exact ⟨entry.2, get?_eq_some_iff.2 entryMem⟩

theorem contains_iff {map : OrderedMap α} {key : String} :
    map.contains key = true ↔ key ∈ map.keys := by
  rw [contains, Option.isSome_iff_ne_none, ne_eq, get?_eq_none_iff, Classical.not_not]

theorem putEntry_of_lookup_eq_none {entries : List (String × α)} {key : String} (value : α)
    (fresh : entries.lookup key = none) :
    putEntry key value entries = entries ++ [(key, value)] := by
  induction entries with
  | nil => rfl
  | cons entry rest ih =>
      have absent := lookup_eq_none_iff.1 fresh
      simp only [List.map_cons, List.mem_cons, not_or] at absent
      have later : rest.lookup key = none := lookup_eq_none_iff.2 absent.2
      rw [putEntry, if_neg (Ne.symm absent.1), ih later, List.cons_append]

theorem entries_insert_of_get?_eq_none {map : OrderedMap α} {key : String} (value : α)
    (fresh : map.get? key = none) :
    (map.insert key value).entries = map.entries ++ [(key, value)] :=
  putEntry_of_lookup_eq_none value fresh

theorem insert_insert (map : OrderedMap α) (key : String) (first second : α) :
    (map.insert key first).insert key second = map.insert key second := by
  have twice : ∀ entries : List (String × α),
      putEntry key second (putEntry key first entries) = putEntry key second entries := by
    intro entries
    induction entries with
    | nil => simp [putEntry]
    | cons entry rest ih =>
        by_cases here : entry.1 = key
        · simp [putEntry, here]
        · simp [putEntry, here, ih]
  exact ext_entries (twice map.entries)

/-- A map is its keys in order with what is bound to them. -/
theorem ext_get? {left right : OrderedMap α} (keys : left.keys = right.keys)
    (same : ∀ key ∈ left.keys, left.get? key = right.get? key) : left = right := by
  have bound : ∀ key value, (key, value) ∈ left.entries → (key, value) ∈ right.entries := by
    intro key value entryMem
    rw [← get?_eq_some_iff, ← same key (List.mem_map_of_mem entryMem)]
    exact get?_eq_some_iff.2 entryMem
  rcases left with ⟨leftEntries, leftNodup⟩
  rcases right with ⟨rightEntries, rightNodup⟩
  apply ext_entries
  simp only [OrderedMap.keys] at keys
  simp only at bound leftNodup rightNodup ⊢
  clear same
  induction leftEntries generalizing rightEntries with
  | nil =>
      rw [List.map_nil, eq_comm, List.map_eq_nil_iff] at keys
      exact keys.symm
  | cons entry rest ih =>
      rcases entry with ⟨key, value⟩
      cases rightEntries with
      | nil => cases keys
      | cons other others =>
          rcases other with ⟨otherKey, otherValue⟩
          simp only [List.map_cons, List.cons.injEq] at keys
          simp only [List.map_cons, List.nodup_cons] at leftNodup rightNodup
          rcases keys with ⟨rfl, restKeys⟩
          have here : value = otherValue := by
            rcases List.mem_cons.1 (bound key value List.mem_cons_self) with equal | later
            · exact (Prod.mk.inj equal).2
            · exact absurd (List.mem_map_of_mem later) rightNodup.1
          subst here
          have further : ∀ restKey restValue, (restKey, restValue) ∈ rest →
              (restKey, restValue) ∈ others := by
            intro restKey restValue entryMem
            rcases List.mem_cons.1 (bound restKey restValue (List.mem_cons_of_mem _ entryMem)) with
              equal | later
            · rcases Prod.mk.inj equal with ⟨rfl, rfl⟩
              exact absurd (List.mem_map_of_mem entryMem) leftNodup.1
            · exact later
          rw [ih leftNodup.2 others rightNodup.2 restKeys further]

theorem lookup_filter_of_ne {entries : List (String × α)} {key removed : String}
    (different : key ≠ removed) :
    (entries.filter fun entry => entry.1 ≠ removed).lookup key = entries.lookup key := by
  induction entries with
  | nil => rfl
  | cons entry rest ih =>
      rcases entry with ⟨first, value⟩
      by_cases here : key = first
      · subst here
        simp [different]
      · by_cases dropped : first = removed
        · subst dropped
          rw [lookup_cons_of_ne different]
          simpa using ih
        · rw [lookup_cons_of_ne here, List.filter_cons_of_pos (by simpa using dropped),
            lookup_cons_of_ne here]
          exact ih

theorem get?_erase_of_ne (map : OrderedMap α) {key removed : String} (different : key ≠ removed) :
    (map.erase removed).get? key = map.get? key :=
  lookup_filter_of_ne different

theorem keys_erase (map : OrderedMap α) (removed : String) :
    (map.erase removed).keys = map.keys.filter fun key => key ≠ removed := by
  simp only [keys, erase, List.filter_map]
  rfl

theorem get?_mapValues (map : OrderedMap α) (change : String → α → β) (key : String) :
    (map.mapValues change).get? key = (map.get? key).map (change key) := by
  have found : ∀ entries : List (String × α),
      (entries.map fun entry => (entry.1, change entry.1 entry.2)).lookup key =
        (entries.lookup key).map (change key) := by
    intro entries
    induction entries with
    | nil => rfl
    | cons entry rest ih =>
        rcases entry with ⟨first, value⟩
        by_cases here : key = first
        · subst here
          simp
        · rw [List.map_cons, lookup_cons_of_ne here, lookup_cons_of_ne here]
          exact ih
  exact found map.entries

/-! ## Maps of lists of bindings -/

/-- In a map of a list of bindings the last binding of a key counts. -/
theorem get?_ofList (bindings : List (String × α)) (key : String) :
    (ofList bindings).get? key = bindings.reverse.lookup key := by
  have collected : ∀ (rest : List (String × α)) (map : OrderedMap α),
      (rest.foldl (fun map binding => map.insert binding.1 binding.2) map).get? key =
        (rest.reverse.lookup key).or (map.get? key) := by
    intro rest
    induction rest with
    | nil => exact fun _ => rfl
    | cons binding later ih =>
        intro map
        rcases binding with ⟨first, bound⟩
        rw [List.foldl_cons, ih, get?_insert, List.reverse_cons, List.lookup_append,
          Option.or_assoc]
        by_cases here : key = first
        · rw [if_pos here, here, List.lookup_cons_self, Option.some_or]
        · rw [if_neg here, lookup_cons_of_ne here, List.lookup_nil, Option.none_or]
  rw [ofList, collected, get?_empty, Option.or_none]

/-- Bindings of different keys, none of which is bound yet, are added to a map as they are. -/
theorem entries_foldl_insert {map : OrderedMap α} {bindings : List (String × α)}
    (nodup : (map.keys ++ bindings.map Prod.fst).Nodup) :
    (bindings.foldl (fun map binding => map.insert binding.1 binding.2) map).entries =
      map.entries ++ bindings := by
  induction bindings generalizing map with
  | nil => exact (List.append_nil map.entries).symm
  | cons binding rest ih =>
      rcases binding with ⟨key, value⟩
      rw [List.map_cons, List.append_cons] at nodup
      have absent : key ∉ map.keys := fun bound =>
        (List.nodup_append.1 (List.nodup_append.1 nodup).1).2.2 key bound key
          (List.mem_singleton_self key) rfl
      have entries := entries_insert_of_get?_eq_none value (get?_eq_none_iff.2 absent)
      have keys : (map.insert key value).keys = map.keys ++ [key] := by
        rw [keys_insert, if_neg absent]
      rw [← keys] at nodup
      rw [List.foldl_cons, ih nodup, entries, List.append_assoc, List.singleton_append]

/-- The map of bindings of different keys has them in their order. -/
theorem entries_ofList {bindings : List (String × α)} (nodup : (bindings.map Prod.fst).Nodup) :
    (ofList bindings).entries = bindings :=
  entries_foldl_insert nodup

/-- A map of a list of bindings has no other bindings. -/
theorem mem_of_get?_ofList {bindings : List (String × α)} {key : String} {value : α}
    (bound : (ofList bindings).get? key = some value) : (key, value) ∈ bindings := by
  rw [get?_ofList] at bound
  exact List.mem_reverse.1 (mem_of_lookup bound)

/-- The bindings whose key is bound again later. -/
def overwritten : List (String × α) → List (String × α)
  | [] => []
  | binding :: rest =>
      if binding.1 ∈ rest.map Prod.fst then binding :: overwritten rest else overwritten rest

/-- The bindings whose key is not bound again. -/
def lasting : List (String × α) → List (String × α)
  | [] => []
  | binding :: rest =>
      if binding.1 ∈ rest.map Prod.fst then lasting rest else binding :: lasting rest

theorem perm_lasting_append (bindings : List (String × α)) :
    bindings.Perm (lasting bindings ++ overwritten bindings) := by
  induction bindings with
  | nil => exact .nil
  | cons binding rest ih =>
      rw [lasting, overwritten]
      split
      · exact (ih.cons binding).trans List.perm_middle.symm
      · exact ih.cons binding

theorem mem_lasting_iff {bindings : List (String × α)} {key : String} {value : α} :
    (key, value) ∈ lasting bindings ↔ bindings.reverse.lookup key = some value := by
  induction bindings with
  | nil => simp [lasting]
  | cons binding rest ih =>
      rcases binding with ⟨first, bound⟩
      rw [lasting, List.reverse_cons, List.lookup_append]
      split
      · rename_i again
        rw [ih]
        by_cases here : key = first
        · subst here
          have found : rest.reverse.lookup key ≠ none := by
            rw [ne_eq, lookup_eq_none_iff, List.map_reverse, List.mem_reverse]
            exact Classical.not_not.2 again
          rcases Option.ne_none_iff_exists'.1 found with ⟨other, otherEq⟩
          rw [otherEq, Option.some_or]
        · rw [lookup_cons_of_ne here, List.lookup_nil, Option.or_none]
      · rename_i last
        rw [List.mem_cons, ih, Prod.mk.injEq]
        by_cases here : key = first
        · subst here
          have unbound : rest.reverse.lookup key = none := by
            rw [lookup_eq_none_iff, List.map_reverse, List.mem_reverse]
            exact last
          simp [unbound, eq_comm]
        · simp [here, lookup_cons_of_ne here]

theorem nodup_lasting (bindings : List (String × α)) : (lasting bindings).Nodup := by
  induction bindings with
  | nil => exact List.nodup_nil
  | cons binding rest ih =>
      rw [lasting]
      split
      · exact ih
      · rename_i last
        refine List.nodup_cons.2 ⟨fun again => last ?_, ih⟩
        exact List.mem_map_of_mem <|
          (perm_lasting_append rest).mem_iff.2 (List.mem_append_left _ again)

/-- The bindings of a list are those of its map and those that were overwritten. -/
theorem perm_entries_ofList (bindings : List (String × α)) :
    bindings.Perm ((ofList bindings).entries ++ overwritten bindings) := by
  have same : (ofList bindings).entries.Perm (lasting bindings) := by
    refine (List.perm_ext_iff_of_nodup ?_ (nodup_lasting bindings)).2 ?_
    · exact (ofList bindings).entries_nodup
    · rintro ⟨key, value⟩
      rw [mem_lasting_iff, ← get?_ofList, get?_eq_some_iff]
  exact (perm_lasting_append bindings).trans (same.symm.append_right _)

/-! ## The same bindings in any order -/

theorem perm_entries_iff {left right : OrderedMap α} :
    left.entries.Perm right.entries ↔ ∀ key, left.get? key = right.get? key := by
  rw [List.perm_ext_iff_of_nodup left.entries_nodup right.entries_nodup]
  constructor
  · intro same key
    apply Option.ext
    intro value
    rw [get?_eq_some_iff, get?_eq_some_iff]
    exact same (key, value)
  · rintro same ⟨key, value⟩
    rw [← get?_eq_some_iff, same key, get?_eq_some_iff]

/-- A map with all bindings of another one and no more of them has the same ones. -/
theorem perm_entries_of_subset {left right : OrderedMap α} (size : left.size = right.size)
    (bound : ∀ entry ∈ left.entries, right.get? entry.1 = some entry.2) :
    left.entries.Perm right.entries := by
  have subset : left.entries ⊆ right.entries :=
    fun entry entryMem => get?_eq_some_iff.1 (bound entry entryMem)
  exact (List.subperm_of_subset left.entries_nodup subset).perm_of_length_le
    (Nat.le_of_eq size.symm)

theorem pairwise_mergeSort {γ : Type} (key : γ → String) (items : List γ) :
    (items.mergeSort fun item later => decide (key item ≤ key later)).Pairwise
      fun item later => key item ≤ key later := by
  have sorted : (items.mergeSort fun item later => decide (key item ≤ key later)).Pairwise
      fun item later => decide (key item ≤ key later) = true := by
    apply List.pairwise_mergeSort
    · intro item middle later first second
      exact decide_eq_true (String.le_trans (of_decide_eq_true first) (of_decide_eq_true second))
    · intro item later
      simpa using String.le_total (key item) (key later)
  exact sorted.imp of_decide_eq_true

/-- Sorting by text keys that tell the items apart forgets in which order these came. -/
theorem mergeSort_eq_of_perm {γ : Type} (key : γ → String) {items others : List γ}
    (apart : ∀ item ∈ items, ∀ other ∈ others, key item = key other → item = other)
    (arranged : items.Perm others) :
    (items.mergeSort fun item later => decide (key item ≤ key later)) =
      others.mergeSort fun item later => decide (key item ≤ key later) := by
  refine List.Perm.eq_of_pairwise ?_ (pairwise_mergeSort key items) (pairwise_mergeSort key others)
    (((List.mergeSort_perm _ _).trans arranged).trans (List.mergeSort_perm _ _).symm)
  intro item other itemMem otherMem below above
  exact apart item (List.mem_mergeSort.1 itemMem) other (List.mem_mergeSort.1 otherMem)
    (String.le_antisymm below above)

theorem mergeSort_entries_eq_iff {left right : OrderedMap α} :
    (left.entries.mergeSort fun entry later => decide (entry.1 ≤ later.1)) =
      (right.entries.mergeSort fun entry later => decide (entry.1 ≤ later.1)) ↔
      left.entries.Perm right.entries := by
  constructor
  · intro same
    have rightPerm := List.mergeSort_perm right.entries fun entry later =>
      decide (entry.1 ≤ later.1)
    rw [← same] at rightPerm
    exact (List.mergeSort_perm _ _).symm.trans rightPerm
  · intro arranged
    refine mergeSort_eq_of_perm Prod.fst ?_ arranged
    intro entry entryMem other otherMem key
    have here := get?_eq_some_iff.2 (arranged.mem_iff.1 entryMem)
    have there := get?_eq_some_iff.2 otherMem
    rw [key, there] at here
    exact Prod.ext key (Option.some.inj here).symm

/-! ## Replacing values -/

theorem exists_of_mem_traverseEntries {change : String → α → Except ε β}
    {entries : List (String × α)} {changed : List (String × β)}
    (succeeded : traverseEntries change entries = .ok changed) {entry : String × β}
    (entryMem : entry ∈ changed) :
    ∃ value, (entry.1, value) ∈ entries ∧ change entry.1 value = .ok entry.2 := by
  induction entries generalizing changed with
  | nil =>
      cases succeeded
      simp at entryMem
  | cons first rest ih =>
      rcases first with ⟨key, value⟩
      simp only [traverseEntries] at succeeded
      split at succeeded
      · cases succeeded
      · cases succeeded
      · rename_i here others hereEq othersEq
        cases succeeded
        rcases List.mem_cons.1 entryMem with rfl | later
        · exact ⟨value, List.mem_cons_self, hereEq⟩
        · rcases ih othersEq later with ⟨source, sourceMem, sourceEq⟩
          exact ⟨source, List.mem_cons_of_mem _ sourceMem, sourceEq⟩

theorem exists_traverseEntries {change : String → α → Except ε β} {entries : List (String × α)}
    (succeeds : ∀ entry ∈ entries, ∃ value, change entry.1 entry.2 = .ok value) :
    ∃ changed, traverseEntries change entries = .ok changed := by
  induction entries with
  | nil => exact ⟨[], rfl⟩
  | cons entry rest ih =>
      rcases ih fun other otherMem => succeeds other (List.mem_cons_of_mem _ otherMem) with
        ⟨others, othersEq⟩
      rcases succeeds entry List.mem_cons_self with ⟨value, valueEq⟩
      exact ⟨(entry.1, value) :: others, by simp only [traverseEntries, valueEq, othersEq]⟩

theorem traverse_eq_ok_iff {change : String → α → Except ε β} {map : OrderedMap α}
    {changed : OrderedMap β} :
    map.traverse change = .ok changed ↔
      traverseEntries change map.entries = .ok changed.entries := by
  unfold traverse
  split
  · rename_i failure failed
    simp [failed]
  · rename_i entries succeeded
    constructor
    · intro same
      cases same
      exact succeeded
    · intro same
      have entriesEq : entries = changed.entries := Except.ok.inj (succeeded.symm.trans same)
      exact congrArg Except.ok (ext_entries entriesEq)

theorem keys_of_traverse {change : String → α → Except ε β} {map : OrderedMap α}
    {changed : OrderedMap β} (succeeded : map.traverse change = .ok changed) :
    changed.keys = map.keys :=
  map_fst_of_traverseEntries (traverse_eq_ok_iff.1 succeeded)

theorem exists_of_get?_traverse {change : String → α → Except ε β} {map : OrderedMap α}
    {changed : OrderedMap β} (succeeded : map.traverse change = .ok changed) {key : String}
    {value : β} (bound : changed.get? key = some value) :
    ∃ source, map.get? key = some source ∧ change key source = .ok value := by
  rcases exists_of_mem_traverseEntries (traverse_eq_ok_iff.1 succeeded)
    (get?_eq_some_iff.1 bound) with ⟨source, sourceMem, sourceEq⟩
  exact ⟨source, get?_eq_some_iff.2 sourceMem, sourceEq⟩

theorem exists_traverse {change : String → α → Except ε β} {map : OrderedMap α}
    (succeeds : ∀ key value, map.get? key = some value →
      ∃ changed, change key value = .ok changed) :
    ∃ changed, map.traverse change = .ok changed := by
  have each : ∀ entry ∈ map.entries, ∃ value, change entry.1 entry.2 = .ok value := by
    intro entry entryMem
    exact succeeds entry.1 entry.2 (get?_eq_some_iff.2 entryMem)
  rcases exists_traverseEntries each with ⟨changed, changedEq⟩
  have nodup : (changed.map Prod.fst).Nodup := by
    rw [map_fst_of_traverseEntries changedEq]
    exact map.keys_nodup
  exact ⟨⟨changed, nodup⟩, traverse_eq_ok_iff.2 changedEq⟩

theorem traverseEntries_congr {left right : String → α → Except ε β} {entries : List (String × α)}
    (same : ∀ entry ∈ entries, left entry.1 entry.2 = right entry.1 entry.2) :
    traverseEntries left entries = traverseEntries right entries := by
  induction entries with
  | nil => rfl
  | cons entry rest ih =>
      have others := ih fun other otherMem => same other (List.mem_cons_of_mem _ otherMem)
      simp only [traverseEntries, same entry List.mem_cons_self, others]

/-- Only what is done to the bindings of the map matters. -/
theorem traverse_congr {left right : String → α → Except ε β} {map : OrderedMap α}
    (same : ∀ key value, map.get? key = some value → left key value = right key value) :
    map.traverse left = map.traverse right := by
  have entriesEq : traverseEntries left map.entries = traverseEntries right map.entries := by
    apply traverseEntries_congr
    intro entry entryMem
    exact same entry.1 entry.2 (get?_eq_some_iff.2 entryMem)
  unfold traverse
  split <;> split <;> simp_all

end ExternalRepos.OrderedMap

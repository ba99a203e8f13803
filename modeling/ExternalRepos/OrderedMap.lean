/-!
# Ordered maps

A finite map from text keys that remembers the order in which its keys were
first given. Keyword arguments, repository mappings, specification attributes
and the declarations of a registry are all of this kind: the order is shown to
users, and no key occurs twice.

A map is observed through `entries`, `keys` and `get?`; the lemmas below say
what each operation does to them. `insert` keeps the place of a key that is
already there, so `keys_insert` never reorders anything.
-/

namespace ExternalRepos

/-- A finite map from text keys, in the order in which the keys were first given. -/
structure OrderedMap (α : Type) where
  /-- The bindings in order. -/
  entries : List (String × α)
  /-- No key is bound twice. -/
  keys_nodup : (entries.map Prod.fst).Nodup

namespace OrderedMap

variable {α β ε : Type}

theorem ext_entries {left right : OrderedMap α} (same : left.entries = right.entries) :
    left = right := by
  cases left
  cases right
  simp_all

instance [DecidableEq α] : DecidableEq (OrderedMap α) := fun left right =>
  if same : left.entries = right.entries then
    isTrue (ext_entries same)
  else
    isFalse fun equal => same (equal ▸ rfl)

/-- The map without bindings. -/
def empty : OrderedMap α := ⟨[], by simp⟩

instance : Inhabited (OrderedMap α) := ⟨empty⟩

instance : EmptyCollection (OrderedMap α) := ⟨empty⟩

/-- The keys in order. -/
def keys (map : OrderedMap α) : List String :=
  map.entries.map Prod.fst

/-- The number of bindings. -/
def size (map : OrderedMap α) : Nat :=
  map.entries.length

/-- The value bound to a key. -/
def get? (map : OrderedMap α) (key : String) : Option α :=
  map.entries.lookup key

/-- Whether a key is bound. -/
def contains (map : OrderedMap α) (key : String) : Bool :=
  (map.get? key).isSome

@[simp]
theorem get?_empty (key : String) : (empty : OrderedMap α).get? key = none := rfl

/-- Binds a key in a list of bindings: in its place if it occurs, else at the end. -/
def putEntry (key : String) (value : α) : List (String × α) → List (String × α)
  | [] => [(key, value)]
  | entry :: rest =>
      if entry.1 = key then (key, value) :: rest else entry :: putEntry key value rest

theorem map_fst_putEntry (key : String) (value : α) (entries : List (String × α)) :
    (putEntry key value entries).map Prod.fst =
      if key ∈ entries.map Prod.fst then entries.map Prod.fst
      else entries.map Prod.fst ++ [key] := by
  induction entries with
  | nil => simp [putEntry]
  | cons entry rest ih =>
      by_cases same : entry.1 = key
      · simp [putEntry, same]
      · by_cases bound : key ∈ rest.map Prod.fst
        · simp only [putEntry, if_neg same, List.map_cons, ih, if_pos bound]
          simp [bound]
        · have absent : key ∉ entry.1 :: rest.map Prod.fst := by
            simp only [List.mem_cons, not_or]
            exact ⟨fun equal => same equal.symm, bound⟩
          simp only [putEntry, if_neg same, List.map_cons, ih, if_neg bound, if_neg absent,
            List.cons_append]

theorem lookup_putEntry (key other : String) (value : α) (entries : List (String × α)) :
    (putEntry key value entries).lookup other =
      if other = key then some value else entries.lookup other := by
  induction entries with
  | nil =>
      by_cases same : other = key
      · simp [putEntry, same]
      · simp [putEntry, List.lookup_cons, same, beq_false_of_ne same]
  | cons entry rest ih =>
      obtain ⟨first, bound⟩ := entry
      by_cases here : first = key
      · subst here
        by_cases same : other = first
        · simp [putEntry, same]
        · simp [putEntry, List.lookup_cons, same, beq_false_of_ne same]
      · by_cases same : other = first
        · subst same
          simp [putEntry, here]
        · simp [putEntry, List.lookup_cons, here, beq_false_of_ne same, ih]

/-- Binds a key: in its place if it is already bound, else at the end. -/
def insert (map : OrderedMap α) (key : String) (value : α) : OrderedMap α where
  entries := putEntry key value map.entries
  keys_nodup := by
    rw [map_fst_putEntry]
    have nodup := map.keys_nodup
    by_cases bound : key ∈ map.entries.map Prod.fst
    · simpa only [if_pos bound] using nodup
    · rw [if_neg bound, List.nodup_append]
      refine ⟨nodup, by simp, ?_⟩
      intro left leftMem right rightMem equal
      simp only [List.mem_singleton] at rightMem
      exact bound (rightMem ▸ equal ▸ leftMem)

theorem keys_insert (map : OrderedMap α) (key : String) (value : α) :
    (map.insert key value).keys = if key ∈ map.keys then map.keys else map.keys ++ [key] :=
  map_fst_putEntry key value map.entries

@[simp]
theorem get?_insert (map : OrderedMap α) (key other : String) (value : α) :
    (map.insert key value).get? other = if other = key then some value else map.get? other :=
  lookup_putEntry key other value map.entries

theorem putEntry_of_lookup {key : String} {value : α} {entries : List (String × α)}
    (bound : entries.lookup key = some value) : putEntry key value entries = entries := by
  induction entries with
  | nil => simp at bound
  | cons entry rest ih =>
      obtain ⟨first, present⟩ := entry
      by_cases here : first = key
      · subst here
        simp only [List.lookup_cons, beq_self_eq_true, Option.some.injEq] at bound
        simp [putEntry, bound]
      · have later : (key == first) = false := beq_false_of_ne fun equal => here equal.symm
        simp only [List.lookup_cons, later] at bound
        simp [putEntry, here, ih bound]

theorem insert_of_get? {map : OrderedMap α} {key : String} {value : α}
    (bound : map.get? key = some value) : map.insert key value = map :=
  ext_entries (putEntry_of_lookup bound)

/-- The map of a list of bindings: a repeated key keeps its first place and its last value. -/
def ofList (bindings : List (String × α)) : OrderedMap α :=
  bindings.foldl (fun map binding => map.insert binding.1 binding.2) empty

/-- The map without the binding of one key. -/
def erase (map : OrderedMap α) (key : String) : OrderedMap α where
  entries := map.entries.filter fun entry => entry.1 ≠ key
  keys_nodup := map.keys_nodup.sublist (List.filter_sublist.map Prod.fst)

/-- The map with every value replaced. -/
def mapValues (map : OrderedMap α) (change : String → α → β) : OrderedMap β where
  entries := map.entries.map fun entry => (entry.1, change entry.1 entry.2)
  keys_nodup := by
    have nodup := map.keys_nodup
    simpa [List.map_map, Function.comp_def] using nodup

@[simp]
theorem keys_mapValues (map : OrderedMap α) (change : String → α → β) :
    (map.mapValues change).keys = map.keys := by
  simp [keys, mapValues, List.map_map, Function.comp_def]

/-- Replaces every value in order, up to the first failure. -/
def traverseEntries (change : String → α → Except ε β) :
    List (String × α) → Except ε (List (String × β))
  | [] => .ok []
  | (key, value) :: rest =>
      match change key value, traverseEntries change rest with
      | .error failure, _ => .error failure
      | .ok _, .error failure => .error failure
      | .ok changed, .ok others => .ok ((key, changed) :: others)

theorem map_fst_of_traverseEntries {change : String → α → Except ε β}
    {entries : List (String × α)} {changed : List (String × β)}
    (success : traverseEntries change entries = .ok changed) :
    changed.map Prod.fst = entries.map Prod.fst := by
  induction entries generalizing changed with
  | nil =>
      simp only [traverseEntries, Except.ok.injEq] at success
      simp [← success]
  | cons entry rest ih =>
      obtain ⟨key, value⟩ := entry
      simp only [traverseEntries] at success
      split at success
      · simp at success
      · simp at success
      · rename_i first others _ restEq
        simp only [Except.ok.injEq] at success
        simp [← success, ih restEq]

/-- Replaces every value in order, up to the first failure; the keys stay. -/
def traverse (map : OrderedMap α) (change : String → α → Except ε β) :
    Except ε (OrderedMap β) :=
  match result : traverseEntries change map.entries with
  | .error failure => .error failure
  | .ok changed =>
      .ok ⟨changed, by rw [map_fst_of_traverseEntries result]; exact map.keys_nodup⟩

end OrderedMap

end ExternalRepos

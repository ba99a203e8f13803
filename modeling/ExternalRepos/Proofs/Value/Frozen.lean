import ExternalRepos.Value.Frozen

/-!
# Freezing and thawing

The members of a value are the values directly inside it; the keys of a mapping
are not among them. What can be reached through members stands at a value
position (`Within`), and both functions on frozen values act at all these
positions and nowhere else.

A value is frozen when its owner can change nothing at a value position, and
thawed when nothing there is closed to changes. Freezing always gives a frozen
value and leaves frozen ones alone, so freezing again does nothing. Each of the
two functions undoes the other one on the values that the other one starts from
(`freeze_thaw`, `thaw_freeze`).
-/

namespace ExternalRepos.Value

/-- The values directly inside a value. -/
def members : Value → List Value
  | .list items => items
  | .tuple items => items
  | .dict entries => entries.map Prod.snd
  | .map entries => entries.map Prod.snd
  | _ => []

/-- The part stands at a value position of the whole, at any depth. -/
inductive Within (part : Value) : Value → Prop
  | self : Within part part
  | inside {member whole : Value} (memberMem : member ∈ whole.members)
      (inner : Within part member) : Within part whole

/-- Whether a value is a list or mapping that its owner may change. -/
def isOpen : Value → Bool
  | .list _ => true
  | .dict _ => true
  | _ => false

/-- Whether a value is a sequence or mapping that nobody can change. -/
def isClosed : Value → Bool
  | .tuple _ => true
  | .map _ => true
  | _ => false

/-- Nothing at a value position can be changed. -/
def IsFrozen (value : Value) : Prop :=
  ∀ part : Value, part.Within value → part.isOpen = false

/-- Nothing at a value position is closed to changes. -/
def IsThawed (value : Value) : Prop :=
  ∀ part : Value, part.Within value → part.isClosed = false

theorem sizeOf_lt_of_mem_members {member value : Value} (memberMem : member ∈ value.members) :
    sizeOf member < sizeOf value := by
  have sizeOf_entry : ∀ entries : List (Value × Value), member ∈ entries.map Prod.snd →
      sizeOf member < sizeOf entries := by
    intro entries entryMem
    rcases List.mem_map.1 entryMem with ⟨⟨key, bound⟩, bindingMem, rfl⟩
    have smaller := List.sizeOf_lt_of_mem bindingMem
    simp only [Prod.mk.sizeOf_spec] at smaller
    show sizeOf bound < sizeOf entries
    omega
  cases value with
  | list items =>
      have smaller := List.sizeOf_lt_of_mem (show member ∈ items from memberMem)
      simp only [list.sizeOf_spec]
      omega
  | tuple items =>
      have smaller := List.sizeOf_lt_of_mem (show member ∈ items from memberMem)
      simp only [tuple.sizeOf_spec]
      omega
  | dict entries =>
      have smaller := sizeOf_entry entries memberMem
      simp only [dict.sizeOf_spec]
      omega
  | map entries =>
      have smaller := sizeOf_entry entries memberMem
      simp only [map.sizeOf_spec]
      omega
  | null | bool | int | float | text | bytes => simp [members] at memberMem

/-- What holds of every value whose members have it holds of all values. -/
@[elab_as_elim]
theorem members_induction {motive : Value → Prop}
    (step : ∀ value : Value, (∀ member ∈ value.members, motive member) → motive value)
    (value : Value) : motive value :=
  step value fun member memberMem =>
    have := sizeOf_lt_of_mem_members memberMem
    members_induction step member
termination_by sizeOf value

/-- What holds at every value position holds of the value and at the positions in its members. -/
theorem forall_within_iff {property : Value → Prop} {whole : Value} :
    (∀ part : Value, part.Within whole → property part) ↔
      property whole ∧
        ∀ member ∈ whole.members, ∀ part : Value, part.Within member → property part := by
  constructor
  · intro everywhere
    refine ⟨everywhere whole .self, ?_⟩
    intro member memberMem part inner
    exact everywhere part (.inside memberMem inner)
  · rintro ⟨here, inside⟩ part position
    cases position with
    | self => exact here
    | inside memberMem inner => exact inside _ memberMem part inner

theorem isFrozen_iff {value : Value} :
    value.IsFrozen ↔ value.isOpen = false ∧ ∀ member ∈ value.members, member.IsFrozen :=
  forall_within_iff

theorem isThawed_iff {value : Value} :
    value.IsThawed ↔ value.isClosed = false ∧ ∀ member ∈ value.members, member.IsThawed :=
  forall_within_iff

/-! ## Members of frozen and thawed values -/

@[simp]
theorem freezeItems_eq_map (items : List Value) : freezeItems items = items.map freeze := by
  induction items with
  | nil => rfl
  | cons item rest ih => rw [freezeItems, ih, List.map_cons]

@[simp]
theorem freezeEntries_eq_map (entries : List (Value × Value)) :
    freezeEntries entries = entries.map fun entry => (entry.1, entry.2.freeze) := by
  induction entries with
  | nil => rfl
  | cons entry rest ih => rw [freezeEntries, ih, List.map_cons]

@[simp]
theorem thawItems_eq_map (items : List Value) : thawItems items = items.map thaw := by
  induction items with
  | nil => rfl
  | cons item rest ih => rw [thawItems, ih, List.map_cons]

@[simp]
theorem thawEntries_eq_map (entries : List (Value × Value)) :
    thawEntries entries = entries.map fun entry => (entry.1, entry.2.thaw) := by
  induction entries with
  | nil => rfl
  | cons entry rest ih => rw [thawEntries, ih, List.map_cons]

theorem map_eq_self {items : List Value} (change : Value → Value)
    (unchanged : ∀ item ∈ items, change item = item) : items.map change = items := by
  rw [List.map_congr_left unchanged, List.map_id']

theorem map_entries_eq_self {entries : List (Value × Value)} (change : Value → Value)
    (unchanged : ∀ value ∈ entries.map Prod.snd, change value = value) :
    entries.map (fun entry => (entry.1, change entry.2)) = entries := by
  have same : ∀ entry ∈ entries, (entry.1, change entry.2) = entry := by
    intro entry entryMem
    rw [unchanged entry.2 (List.mem_map_of_mem entryMem)]
  rw [List.map_congr_left same, List.map_id']

@[simp]
theorem members_freeze (value : Value) : value.freeze.members = value.members.map freeze := by
  cases value <;> simp [freeze, members]

@[simp]
theorem isOpen_freeze (value : Value) : value.freeze.isOpen = false := by
  cases value <;> rfl

/-! ## Freezing -/

theorem isFrozen_freeze (value : Value) : value.freeze.IsFrozen := by
  induction value using members_induction with
  | step value ih =>
      rw [isFrozen_iff, members_freeze]
      refine ⟨isOpen_freeze value, ?_⟩
      intro member memberMem
      rcases List.mem_map.1 memberMem with ⟨source, sourceMem, rfl⟩
      exact ih source sourceMem

theorem IsFrozen.freeze_eq {value : Value} (frozen : value.IsFrozen) : value.freeze = value := by
  induction value using members_induction with
  | step value ih =>
      rcases isFrozen_iff.1 frozen with ⟨notOpen, inside⟩
      have unchanged : ∀ member ∈ value.members, member.freeze = member := by
        intro member memberMem
        exact ih member memberMem (inside member memberMem)
      cases value with
      | list items => simp [isOpen] at notOpen
      | dict entries => simp [isOpen] at notOpen
      | tuple items =>
          rw [freeze, freezeItems_eq_map]
          exact congrArg Value.tuple (map_eq_self freeze unchanged)
      | map entries =>
          rw [freeze, freezeEntries_eq_map]
          exact congrArg Value.map (map_entries_eq_self freeze unchanged)
      | null | bool | int | float | text | bytes => rfl

theorem freeze_freeze (value : Value) : value.freeze.freeze = value.freeze :=
  value.isFrozen_freeze.freeze_eq

/-- Closing the outermost container first changes nothing about the frozen value. -/
@[simp]
theorem freeze_freezeTop (value : Value) : value.freezeTop.freeze = value.freeze := by
  cases value <;> rfl

/-! ## Thawing -/

/-- Nothing in a thawed value is closed to changes. -/
theorem IsFrozen.isThawed_thaw {value : Value} (frozen : value.IsFrozen) :
    value.thaw.IsThawed := by
  induction value using members_induction with
  | step value ih =>
      rcases isFrozen_iff.1 frozen with ⟨notOpen, inside⟩
      have opened : ∀ member ∈ value.members.map thaw, member.IsThawed := by
        intro member memberMem
        rcases List.mem_map.1 memberMem with ⟨source, sourceMem, rfl⟩
        exact ih source sourceMem (inside source sourceMem)
      rw [isThawed_iff]
      cases value with
      | list items => simp [isOpen] at notOpen
      | dict entries => simp [isOpen] at notOpen
      | tuple items => exact ⟨rfl, by simpa [thaw, members] using opened⟩
      | map entries => exact ⟨rfl, by simpa [thaw, members] using opened⟩
      | null | bool | int | float | text | bytes => exact ⟨rfl, by simp [thaw, members]⟩

theorem IsFrozen.freeze_thaw {value : Value} (frozen : value.IsFrozen) :
    value.thaw.freeze = value := by
  induction value using members_induction with
  | step value ih =>
      rcases isFrozen_iff.1 frozen with ⟨notOpen, inside⟩
      have restored : ∀ member ∈ value.members, member.thaw.freeze = member := by
        intro member memberMem
        exact ih member memberMem (inside member memberMem)
      cases value with
      | list items => simp [isOpen] at notOpen
      | dict entries => simp [isOpen] at notOpen
      | tuple items =>
          rw [thaw, freeze, thawItems_eq_map, freezeItems_eq_map, List.map_map]
          exact congrArg Value.tuple (map_eq_self (freeze ∘ thaw) restored)
      | map entries =>
          rw [thaw, freeze, thawEntries_eq_map, freezeEntries_eq_map, List.map_map]
          exact congrArg Value.map (map_entries_eq_self (freeze ∘ thaw) restored)
      | null | bool | int | float | text | bytes => rfl

theorem IsThawed.thaw_freeze {value : Value} (thawed : value.IsThawed) :
    value.freeze.thaw = value := by
  induction value using members_induction with
  | step value ih =>
      rcases isThawed_iff.1 thawed with ⟨notClosed, inside⟩
      have restored : ∀ member ∈ value.members, member.freeze.thaw = member := by
        intro member memberMem
        exact ih member memberMem (inside member memberMem)
      cases value with
      | tuple items => simp [isClosed] at notClosed
      | map entries => simp [isClosed] at notClosed
      | list items =>
          rw [freeze, thaw, thawItems_eq_map, freezeItems_eq_map, List.map_map]
          exact congrArg Value.list (map_eq_self (thaw ∘ freeze) restored)
      | dict entries =>
          rw [freeze, thaw, thawEntries_eq_map, freezeEntries_eq_map, List.map_map]
          exact congrArg Value.dict (map_entries_eq_self (thaw ∘ freeze) restored)
      | null | bool | int | float | text | bytes => rfl

end ExternalRepos.Value

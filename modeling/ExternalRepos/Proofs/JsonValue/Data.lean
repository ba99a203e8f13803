import ExternalRepos.JsonValue.Basic
import ExternalRepos.Proofs.Except
import ExternalRepos.Proofs.Value.Frozen

/-!
# Values that JSON can express

JSON has absent values, truth values, integers, texts, sequences, and mappings
whose keys are texts. A value that is one of these at every value position has a
JSON form: its keys can always be put in order and become names of members.
-/

namespace ExternalRepos

namespace Value

/-- A value of a kind that JSON has, apart from what is inside it. -/
def IsJsonKind : Value → Prop
  | .null | .bool _ | .int _ | .text _ | .list _ => True
  | .dict entries => ∀ entry ∈ entries, ∃ key, entry.1 = .text key
  | _ => False

/-- Everything at a value position is of a kind that JSON has. -/
def IsJsonData (value : Value) : Prop :=
  ∀ part : Value, part.Within value → part.IsJsonKind

theorem isJsonData_iff {value : Value} :
    value.IsJsonData ↔ value.IsJsonKind ∧ ∀ member ∈ value.members, member.IsJsonData :=
  forall_within_iff

theorem isJsonData_text (content : String) : (Value.text content).IsJsonData := by
  rw [isJsonData_iff]
  exact ⟨trivial, by simp [members]⟩

theorem isJsonData_list {items : List Value} (each : ∀ item ∈ items, item.IsJsonData) :
    (Value.list items).IsJsonData :=
  isJsonData_iff.2 ⟨trivial, each⟩

theorem isJsonData_dict {bindings : List (String × Value)}
    (each : ∀ binding ∈ bindings, binding.2.IsJsonData) :
    (Value.dict (ofTextEntries bindings)).IsJsonData := by
  rw [isJsonData_iff]
  constructor
  · intro entry entryMem
    rcases List.mem_map.1 entryMem with ⟨binding, _, rfl⟩
    exact ⟨binding.1, rfl⟩
  · intro member memberMem
    rcases List.mem_map.1 memberMem with ⟨entry, entryMem, rfl⟩
    rcases List.mem_map.1 entryMem with ⟨binding, bindingMem, rfl⟩
    exact each binding bindingMem

end Value

namespace JsonValue

theorem checkKeys_of_texts {keys : List Value}
    (texts : ∀ key ∈ keys, ∃ content, key = .text content) :
    checkKeys keys = .ok () := by
  induction keys with
  | nil => rfl
  | cons earlier rest ih =>
      cases rest with
      | nil => rfl
      | cons later others =>
          rcases texts earlier List.mem_cons_self with ⟨first, rfl⟩
          rcases texts later (List.mem_cons_of_mem _ List.mem_cons_self) with ⟨second, rfl⟩
          rw [checkKeys, comparable, if_pos rfl]
          exact ih fun key keyMem => texts key (List.mem_cons_of_mem _ keyMem)

theorem exists_namedMembers {entries : List (Value × Except Error JsonValue)}
    (each : ∀ entry ∈ entries, (∃ content, entry.1 = .text content) ∧
      ∃ document, entry.2 = .ok document) :
    ∃ members, namedMembers entries = .ok members := by
  induction entries with
  | nil => exact ⟨[], rfl⟩
  | cons entry rest ih =>
      rcases ih fun other otherMem => each other (List.mem_cons_of_mem _ otherMem) with
        ⟨others, othersEq⟩
      rcases entry with ⟨key, member⟩
      rcases each (key, member) List.mem_cons_self with ⟨⟨content, rfl⟩, document, rfl⟩
      refine ⟨(content, document) :: others, ?_⟩
      rw [namedMembers, othersEq]
      rfl

theorem exists_ofItems {items : List Value}
    (each : ∀ item ∈ items, ∃ document, ofValue item = .ok document) :
    ∃ documents, ofItems items = .ok documents := by
  induction items with
  | nil => exact ⟨[], rfl⟩
  | cons item rest ih =>
      rcases ih fun other otherMem => each other (List.mem_cons_of_mem _ otherMem) with
        ⟨others, othersEq⟩
      rcases each item List.mem_cons_self with ⟨document, documentEq⟩
      exact ⟨document :: others, by rw [ofItems, documentEq, othersEq]⟩

theorem ofEntries_eq_map (entries : List (Value × Value)) :
    ofEntries entries = entries.map fun entry => (entry.1, ofValue entry.2) := by
  induction entries with
  | nil => rfl
  | cons entry rest ih => rw [ofEntries, ih, List.map_cons]

theorem exists_membersOf {entries : List (Value × Value)}
    (keys : ∀ entry ∈ entries, ∃ content, entry.1 = .text content)
    (each : ∀ entry ∈ entries, ∃ document, ofValue entry.2 = .ok document) :
    ∃ members, membersOf (ofEntries entries) = .ok members := by
  have converted : ∀ entry ∈ ofEntries entries,
      (∃ content, entry.1 = .text content) ∧ ∃ document, entry.2 = .ok document := by
    intro entry entryMem
    rw [ofEntries_eq_map] at entryMem
    rcases List.mem_map.1 entryMem with ⟨source, sourceMem, rfl⟩
    exact ⟨keys source sourceMem, each source sourceMem⟩
  have checked : checkKeys ((ofEntries entries).map Prod.fst) = .ok () := by
    apply checkKeys_of_texts
    intro key keyMem
    rcases List.mem_map.1 keyMem with ⟨entry, entryMem, rfl⟩
    exact (converted entry entryMem).1
  -- sorting by the keys adds no entry
  have sorted : ∀ entry ∈ (ofEntries entries).mergeSort fun left right => keyLe left.1 right.1,
      (∃ content, entry.1 = .text content) ∧ ∃ document, entry.2 = .ok document := by
    intro entry entryMem
    exact converted entry (List.mem_mergeSort.1 entryMem)
  rcases exists_namedMembers sorted with ⟨members, membersEq⟩
  refine ⟨members, ?_⟩
  rw [membersOf, checked]
  exact membersEq

/-- What JSON can express has a JSON form. -/
theorem exists_ofValue {value : Value} (json : value.IsJsonData) :
    ∃ document, ofValue value = .ok document := by
  induction value using Value.members_induction with
  | step value ih =>
      rcases Value.isJsonData_iff.1 json with ⟨kind, inside⟩
      have each : ∀ member ∈ value.members, ∃ document, ofValue member = .ok document := by
        intro member memberMem
        exact ih member memberMem (inside member memberMem)
      cases value with
      | null => exact ⟨.null, rfl⟩
      | bool truth => exact ⟨.bool truth, rfl⟩
      | int integer => exact ⟨.int integer, rfl⟩
      | text content => exact ⟨.text content, rfl⟩
      | list items =>
          have converted : ∃ documents, ofItems items = .ok documents := exists_ofItems each
          rcases converted with ⟨documents, documentsEq⟩
          exact ⟨.array documents, by rw [ofValue, documentsEq]; rfl⟩
      | dict entries =>
          have bound : ∀ entry ∈ entries, ∃ document, ofValue entry.2 = .ok document := by
            intro entry entryMem
            exact each entry.2 (List.mem_map_of_mem entryMem)
          rcases exists_membersOf kind bound with ⟨members, membersEq⟩
          exact ⟨.object members, by rw [ofValue, membersEq]; rfl⟩
      | float | bytes | tuple | map => exact kind.elim

end JsonValue

end ExternalRepos

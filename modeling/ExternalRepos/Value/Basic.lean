import ExternalRepos.Decimal.Binary64

/-!
# Attribute values

The dynamically typed values that callers pass to repository rules: leaves,
lists and tuples of values, and two kinds of mappings that keep the order of
their entries. Lists and `dict` mappings are still open to change by their
owner; tuples and `map` mappings are not, and only these are stored.

The keys of a mapping are values too. Functions on values never look inside
keys unless they say so.
-/

namespace ExternalRepos

/-- A dynamically typed attribute value. -/
inductive Value
  | null
  | bool (truth : Bool)
  | int (integer : Int)
  | float (number : Binary64)
  | text (content : String)
  | bytes (content : List UInt8)
  /-- A sequence that its owner may still change. -/
  | list (items : List Value)
  /-- A sequence that cannot change. -/
  | tuple (items : List Value)
  /-- A mapping that its owner may still change. -/
  | dict (entries : List (Value × Value))
  /-- A mapping that cannot change. -/
  | map (entries : List (Value × Value))
  deriving Inhabited

namespace Value

/-- The name of a value's type, as diagnostics show it. -/
def typeName : Value → String
  | .null => "NoneType"
  | .bool _ => "bool"
  | .int _ => "int"
  | .float _ => "float"
  | .text _ => "str"
  | .bytes _ => "bytes"
  | .list _ => "list"
  | .tuple _ => "tuple"
  | .dict _ => "dict"
  | .map _ => "mappingproxy"

/-- Whether the value is the absent one. -/
def isNull : Value → Bool
  | .null => true
  | _ => false

/-- The content of a text. -/
def text? : Value → Option String
  | .text content => some content
  | _ => none

/-- The entries of a mapping of either kind. -/
def entries? : Value → Option (List (Value × Value))
  | .dict entries => some entries
  | .map entries => some entries
  | _ => none

/-- Whether the value is empty, zero, false or absent. -/
def isFalsy : Value → Bool
  | .null => true
  | .bool truth => !truth
  | .int integer => integer = 0
  | .float number => number.isZero
  | .text content => content = ""
  | .bytes content => content.isEmpty
  | .list items => items.isEmpty
  | .tuple items => items.isEmpty
  | .dict entries => entries.isEmpty
  | .map entries => entries.isEmpty

/-- The values met when going through a value: items, keys, characters or byte values. -/
def iterate? : Value → Option (List Value)
  | .text content => some (content.toList.map fun char => .text (String.ofList [char]))
  | .bytes content => some (content.map fun byte => .int byte.toNat)
  | .list items => some items
  | .tuple items => some items
  | .dict entries => some (entries.map Prod.fst)
  | .map entries => some (entries.map Prod.fst)
  | _ => none

/-- Bindings as the entries of a mapping. -/
def ofTextEntries (bindings : List (String × Value)) : List (Value × Value) :=
  bindings.map fun binding => (.text binding.1, binding.2)

@[simp]
theorem isNull_iff {value : Value} : value.isNull = true ↔ value = .null := by
  cases value <;> simp [isNull]

mutual

/-- Whether two values are built alike. -/
def same : Value → Value → Bool
  | .null, .null => true
  | .bool left, .bool right => left = right
  | .int left, .int right => left = right
  | .float left, .float right => left = right
  | .text left, .text right => left = right
  | .bytes left, .bytes right => left = right
  | .list left, .list right => sameItems left right
  | .tuple left, .tuple right => sameItems left right
  | .dict left, .dict right => sameEntries left right
  | .map left, .map right => sameEntries left right
  | _, _ => false
termination_by structural left => left

/-- Whether two sequences of values are built alike. -/
def sameItems : List Value → List Value → Bool
  | [], [] => true
  | left :: leftRest, right :: rightRest => same left right && sameItems leftRest rightRest
  | _, _ => false
termination_by structural left => left

/-- Whether two sequences of entries are built alike. -/
def sameEntries : List (Value × Value) → List (Value × Value) → Bool
  | [], [] => true
  | (leftKey, left) :: leftRest, (rightKey, right) :: rightRest =>
      same leftKey rightKey && same left right && sameEntries leftRest rightRest
  | _, _ => false
termination_by structural left => left

end

mutual

theorem same_iff : ∀ left right : Value, same left right = true ↔ left = right
  | .null, right => by cases right <;> simp [same]
  | .bool _, right => by cases right <;> simp [same]
  | .int _, right => by cases right <;> simp [same]
  | .float _, right => by cases right <;> simp [same]
  | .text _, right => by cases right <;> simp [same]
  | .bytes _, right => by cases right <;> simp [same]
  | .list left, right => by cases right <;> simp [same, sameItems_iff left]
  | .tuple left, right => by cases right <;> simp [same, sameItems_iff left]
  | .dict left, right => by cases right <;> simp [same, sameEntries_iff left]
  | .map left, right => by cases right <;> simp [same, sameEntries_iff left]

theorem sameItems_iff : ∀ left right : List Value, sameItems left right = true ↔ left = right
  | [], right => by cases right <;> simp [sameItems]
  | left :: leftRest, right => by
      cases right <;> simp [sameItems, same_iff left, sameItems_iff leftRest]

theorem sameEntries_iff :
    ∀ left right : List (Value × Value), sameEntries left right = true ↔ left = right
  | [], right => by cases right <;> simp [sameEntries]
  | (leftKey, left) :: leftRest, right => by
      rcases right with _ | ⟨⟨rightKey, right⟩, rightRest⟩
      · simp [sameEntries]
      · simp [sameEntries, same_iff leftKey, same_iff left, sameEntries_iff leftRest, and_assoc]

end

instance : DecidableEq Value := fun left right =>
  decidable_of_iff (same left right = true) (same_iff left right)

end Value

end ExternalRepos

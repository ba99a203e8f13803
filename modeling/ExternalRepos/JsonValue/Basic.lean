import ExternalRepos.Error
import ExternalRepos.Value.Equality

/-!
# JSON values

The documents that values are written as. `JsonValue.ofValue` turns lists and
tuples into arrays and changeable mappings into objects whose members are
sorted by their keys; byte strings and unchangeable mappings have no JSON form.

Keys are put in order before they become the names of members: texts by their
code points, numbers and truth values by their size. Keys of different kinds
cannot be put in order, and absent values not even among themselves.
-/

namespace ExternalRepos

/-- A JSON document; the members of an object are in the order in which they are written. -/
inductive JsonValue
  | null
  | bool (truth : Bool)
  | int (integer : Int)
  | float (number : Binary64)
  | text (content : String)
  | array (items : List JsonValue)
  | object (members : List (String × JsonValue))
  deriving Inhabited

namespace JsonValue

/-- The words for numbers that JSON has no digits for. -/
def floatStyle : Decimal.Style :=
  { Value.floatStyle with notANumber := "NaN", infinity := "Infinity" }

/-- A number as `mantissa * 2 ^ exponent`; an infinity is larger than every finite number. -/
def scaled? : Value → Option (Int × Int)
  | .float number => some (number.signedMantissa, number.exponent)
  | other => other.integer?.map fun integer => (integer, 0)

/-- Whether a key may stand before another, or next to it if it cannot be told. -/
def keyLe : Value → Value → Bool
  | .text left, .text right => decide (left ≤ right)
  | left, right =>
      match scaled? left, scaled? right with
      | some left, some right =>
          decide (left.1 * Int.pow 2 (left.2 - right.2).toNat ≤
            right.1 * Int.pow 2 (right.2 - left.2).toNat)
      | _, _ => true

/-- Whether two keys can be put in order. -/
def comparable : Value → Value → Bool
  | .text _, .text _ => true
  | .bytes _, .bytes _ => true
  | .tuple _, .tuple _ => true
  | left, right => (scaled? left).isSome && (scaled? right).isSome

/-- Rejects the first key that cannot be put in order with the one before it. -/
def checkKeys : List Value → Except Error Unit
  | earlier :: later :: rest =>
      if comparable later earlier then checkKeys (later :: rest)
      else .error (.unorderedKeys later.typeName earlier.typeName)
  | _ => .ok ()

/-- The name of the member that a key becomes. -/
def keyName : Value → Except Error String
  | .text content => .ok content
  | .null => .ok "null"
  | .bool truth => .ok (if truth then "true" else "false")
  | .int integer => .ok (toString integer)
  | .float number => .ok (floatStyle.write number)
  | other => .error (.keyNotSerializable other.typeName)

/-- The members made of entries in order, up to the first that has no JSON form. -/
def namedMembers : List (Value × Except Error JsonValue) → Except Error (List (String × JsonValue))
  | [] => .ok []
  | (key, member) :: rest => do
      let name ← keyName key
      let value ← member
      let others ← namedMembers rest
      return (name, value) :: others

/-- The members made of the entries of a mapping. -/
def membersOf (entries : List (Value × Except Error JsonValue)) :
    Except Error (List (String × JsonValue)) := do
  checkKeys (entries.map Prod.fst)
  namedMembers (entries.mergeSort fun left right => keyLe left.1 right.1)

mutual

/-- The JSON form of a value. -/
def ofValue : Value → Except Error JsonValue
  | .null => .ok .null
  | .bool truth => .ok (.bool truth)
  | .int integer => .ok (.int integer)
  | .float number => .ok (.float number)
  | .text content => .ok (.text content)
  | .list items => (ofItems items).map .array
  | .tuple items => (ofItems items).map .array
  | .dict entries => (membersOf (ofEntries entries)).map .object
  | .bytes content => .error (.notSerializable (Value.bytes content).typeName)
  | .map entries => .error (.notSerializable (Value.map entries).typeName)
termination_by structural value => value

/-- The JSON forms of items, up to the first that has none. -/
def ofItems : List Value → Except Error (List JsonValue)
  | [] => .ok []
  | item :: rest =>
      match ofValue item, ofItems rest with
      | .error failure, _ => .error failure
      | .ok _, .error failure => .error failure
      | .ok first, .ok others => .ok (first :: others)
termination_by structural items => items

/-- The JSON forms of the values of entries. -/
def ofEntries : List (Value × Value) → List (Value × Except Error JsonValue)
  | [] => []
  | (key, value) :: rest => (key, ofValue value) :: ofEntries rest
termination_by structural entries => entries

end

end JsonValue

end ExternalRepos

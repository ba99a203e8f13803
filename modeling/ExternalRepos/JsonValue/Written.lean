import ExternalRepos.JsonValue.Basic
import ExternalRepos.Text.Escaped

/-!
# Written JSON

The text of a JSON document in the layout that people read: every item and
every member on a line of its own, two spaces deeper than the bracket that
opens it. An empty array or object is a pair of brackets.
-/

namespace ExternalRepos.JsonValue

/-- The start of a line at a depth. -/
def newLine (depth : Nat) : String :=
  String.ofList ('\n' :: List.replicate (2 * depth) ' ')

/-- Parts on lines of their own between two brackets. -/
def bracketed (opening closing : String) (depth : Nat) (parts : List String) : String :=
  match parts with
  | [] => opening ++ closing
  | parts =>
      opening ++ ",".intercalate (parts.map fun part => newLine (depth + 1) ++ part) ++
        newLine depth ++ closing

mutual

/-- The text of a document whose first line stands at the given depth. -/
def writtenAt (depth : Nat) : JsonValue → String
  | .null => "null"
  | .bool truth => if truth then "true" else "false"
  | .int integer => toString integer
  | .float number => floatStyle.write number
  | .text content => Text.escape content
  | .array items => bracketed "[" "]" depth (writtenItems (depth + 1) items)
  | .object members => bracketed "\x7b" "\x7d" depth (writtenMembers (depth + 1) members)
termination_by structural document => document

/-- The texts of items. -/
def writtenItems (depth : Nat) : List JsonValue → List String
  | [] => []
  | item :: rest => writtenAt depth item :: writtenItems depth rest
termination_by structural items => items

/-- The texts of members. -/
def writtenMembers (depth : Nat) : List (String × JsonValue) → List String
  | [] => []
  | (name, value) :: rest =>
      (Text.escape name ++ ": " ++ writtenAt depth value) :: writtenMembers depth rest
termination_by structural members => members

end

/-- The text of a document. -/
def written (document : JsonValue) : String :=
  document.writtenAt 0

end ExternalRepos.JsonValue

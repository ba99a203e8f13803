import ExternalRepos.Text.Split
import ExternalRepos.Value.Basic

/-!
# Equality of values

Values compare by what they stand for: the truth values are the integers one
and zero, an integer equals a number of exactly its value, and mappings are
equal when they bind equal keys to equal values in any order and of either
kind. Beyond that values of different kinds are never equal. A value that is
not a number differs from everything, also from itself.
-/

namespace ExternalRepos.Value

/-- An integer or truth value as an integer. -/
def integer? : Value → Option Int
  | .bool truth => some (if truth then 1 else 0)
  | .int integer => some integer
  | _ => none

/-- Equality of the leaves of values. -/
def equalLeaves : Value → Value → Bool
  | .null, .null => true
  | .text left, .text right => left = right
  | .bytes left, .bytes right => left = right
  | .float left, .float right => left.equals right
  | .float left, right => right.integer?.any left.equalsInt
  | left, .float right => left.integer?.any right.equalsInt
  | left, right => left.integer?.any fun integer => right.integer? = some integer

mutual

/-- Whether two values stand for the same thing. -/
def equal : Value → Value → Bool
  | .list left, .list right => equalItems left right
  | .tuple left, .tuple right => equalItems left right
  | .dict left, right => right.entries?.any fun others =>
      left.length = others.length && equalEntries left others
  | .map left, right => right.entries?.any fun others =>
      left.length = others.length && equalEntries left others
  | left, right => equalLeaves left right
termination_by structural left => left

/-- Whether two sequences have equal items in the same order. -/
def equalItems : List Value → List Value → Bool
  | [], [] => true
  | left :: leftRest, right :: rightRest => equal left right && equalItems leftRest rightRest
  | _, _ => false
termination_by structural left => left

/-- Whether every entry has an equal one among the others. -/
def equalEntries : List (Value × Value) → List (Value × Value) → Bool
  | [], _ => true
  | (key, value) :: rest, others =>
      (others.any fun other => equal key other.1 && equal value other.2) &&
        equalEntries rest others
termination_by structural entries => entries

end

/-- Binds a key among entries: the first equal key stays and takes the new value. -/
def bindEntry (key value : Value) : List (Value × Value) → List (Value × Value)
  | [] => [(key, value)]
  | entry :: rest =>
      if equal entry.1 key then (entry.1, value) :: rest else entry :: bindEntry key value rest

/-- The entries of a mapping that is built by binding one key after the other. -/
def distinctEntries (entries : List (Value × Value)) : List (Value × Value) :=
  entries.foldl (fun bound entry => bindEntry entry.1 entry.2 bound) []

/--
Whether a text occurs in a value: as a key, an item, or a part of a text. Other
values hold nothing.
-/
def holds? (key : String) : Value → Option Bool
  | .text content => some (Text.splitOnce? key.toList content.toList).isSome
  | .bytes _ => none
  | other => other.iterate?.map fun members => members.any fun member => equal member (.text key)

/-- The value that a mapping binds to a text key. -/
def field? (mapping : Value) (key : String) : Option Value :=
  mapping.entries?.bind fun entries =>
    (entries.find? fun entry => equal entry.1 (.text key)).map Prod.snd

end ExternalRepos.Value

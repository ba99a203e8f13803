import ExternalRepos.Decimal.Written
import ExternalRepos.Text.Quoted
import ExternalRepos.Value.Basic

/-!
# Written values

The form in which diagnostics and summaries show a value: texts quoted, lists
in brackets, tuples in parentheses with a comma after a single item, mappings
in braces with the unchangeable ones marked, entries in their order. Nothing in
it is unprintable, whatever the value holds.
-/

namespace ExternalRepos.Value

/-- Positional from `1e-4` up to below `1e16`, and at least two digits of exponent. -/
def floatStyle : Decimal.Style where
  leastPositional := -4
  greatestPositional := 15
  exponentWidth := 2
  notANumber := "nan"
  infinity := "inf"

/-- Items with a comma and a space between them. -/
def commaSeparated (items : List String) : String :=
  ", ".intercalate items

/-- Entries between braces. -/
def braced (entries : List String) : String :=
  "\x7b" ++ commaSeparated entries ++ "\x7d"

mutual

/-- The written form of a value. -/
def written : Value → String
  | .null => "None"
  | .bool truth => if truth then "True" else "False"
  | .int integer => toString integer
  | .float number => floatStyle.write number
  | .text content => Text.quote content
  | .bytes content => Text.quoteBytes content
  | .list items => "[" ++ commaSeparated (writtenItems items) ++ "]"
  | .tuple [item] => "(" ++ written item ++ ",)"
  | .tuple items => "(" ++ commaSeparated (writtenItems items) ++ ")"
  | .dict entries => braced (writtenEntries entries)
  | .map entries => "mappingproxy(" ++ braced (writtenEntries entries) ++ ")"
termination_by structural value => value

/-- The written forms of items. -/
def writtenItems : List Value → List String
  | [] => []
  | item :: rest => written item :: writtenItems rest
termination_by structural items => items

/-- The written forms of entries. -/
def writtenEntries : List (Value × Value) → List String
  | [] => []
  | (key, value) :: rest => (written key ++ ": " ++ written value) :: writtenEntries rest
termination_by structural entries => entries

end

/-- A value as running text: a text and the entries of a mapping stand without their marks. -/
def asText : Value → String
  | .text content => content
  | .map entries => braced (writtenEntries entries)
  | other => written other

end ExternalRepos.Value

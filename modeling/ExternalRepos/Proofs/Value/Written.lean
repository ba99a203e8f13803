import ExternalRepos.Proofs.Text.Printable
import ExternalRepos.Value.Written

/-!
# Written values are printable

The text in a value is either quoted or not there at all, so the written form of a value
is printable whatever the value holds. Keys are written like all other values, which is
why the induction goes into them as well.
-/

namespace ExternalRepos.Value

open Text

theorem isPrintable_commaSeparated {items : List String}
    (each : ∀ item ∈ items, IsPrintable item) : IsPrintable (commaSeparated items) :=
  isPrintable_intercalate (by decide) each

theorem isPrintable_braced {entries : List String}
    (each : ∀ entry ∈ entries, IsPrintable entry) : IsPrintable (braced entries) :=
  isPrintable_between (by decide) (isPrintable_commaSeparated each) (by decide)

mutual

theorem isPrintable_written : ∀ value : Value, IsPrintable value.written
  | .null => by decide
  | .bool truth => by cases truth <;> decide
  | .int integer => isPrintable_toString integer
  | .float number => Decimal.isPrintable_write (by decide) (by decide) number
  | .text content => isPrintable_quote content
  | .bytes content => isPrintable_quoteBytes content
  | .list items => by
      rw [written]
      exact isPrintable_between (by decide)
        (isPrintable_commaSeparated (isPrintable_writtenItems items)) (by decide)
  | .tuple [] => by decide
  | .tuple [item] => by
      rw [written]
      exact isPrintable_between (by decide) (isPrintable_written item) (by decide)
  | .tuple (first :: second :: rest) => by
      rw [written]
      · exact isPrintable_between (by decide)
          (isPrintable_commaSeparated (isPrintable_writtenItems (first :: second :: rest)))
          (by decide)
      · simp
  | .dict entries => by
      rw [written]
      exact isPrintable_braced (isPrintable_writtenEntries entries)
  | .map entries => by
      rw [written]
      exact isPrintable_between (by decide)
        (isPrintable_braced (isPrintable_writtenEntries entries)) (by decide)

theorem isPrintable_writtenItems :
    ∀ items : List Value, ∀ text ∈ writtenItems items, IsPrintable text
  | [] => by simp [writtenItems]
  | item :: rest => by
      rw [writtenItems, List.forall_mem_cons]
      exact ⟨isPrintable_written item, isPrintable_writtenItems rest⟩

theorem isPrintable_writtenEntries :
    ∀ entries : List (Value × Value), ∀ text ∈ writtenEntries entries, IsPrintable text
  | [] => by simp [writtenEntries]
  | (key, value) :: rest => by
      rw [writtenEntries, List.forall_mem_cons]
      exact ⟨isPrintable_append.2
        ⟨isPrintable_append.2 ⟨isPrintable_written key, by decide⟩, isPrintable_written value⟩,
        isPrintable_writtenEntries rest⟩

end

end ExternalRepos.Value

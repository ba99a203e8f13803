import ExternalRepos.Value.Basic

/-!
# Terms

The attribute values of a session are written as terms: values that may mention
the stored attribute of an earlier declaration. A term is resolved when its
step runs; the first mention that leads nowhere is reported.
-/

namespace ExternalRepos

/-- A value that may mention stored attributes. -/
inductive Term
  | literal (value : Value)
  /-- An attribute of a repository declared in a registry. -/
  | stored (registry repository key : String)
  | list (items : List Term)
  | tuple (items : List Term)
  | dict (entries : List (Value × Term))
  | map (entries : List (Value × Term))
  deriving Inhabited

namespace Term

variable {ε : Type}

mutual

/-- The value of a term, given the values of what it mentions. -/
def resolve (stored : String → String → String → Except ε Value) : Term → Except ε Value
  | .literal value => .ok value
  | .stored registry repository key => stored registry repository key
  | .list items => (resolveItems stored items).map .list
  | .tuple items => (resolveItems stored items).map .tuple
  | .dict entries => (resolveEntries stored entries).map .dict
  | .map entries => (resolveEntries stored entries).map .map
termination_by structural term => term

/-- The values of terms, up to the first failure. -/
def resolveItems (stored : String → String → String → Except ε Value) :
    List Term → Except ε (List Value)
  | [] => .ok []
  | first :: rest => do
      let value ← resolve stored first
      let values ← resolveItems stored rest
      return value :: values
termination_by structural terms => terms

/-- The values of entries, up to the first failure. -/
def resolveEntries (stored : String → String → String → Except ε Value) :
    List (Value × Term) → Except ε (List (Value × Value))
  | [] => .ok []
  | (key, first) :: rest => do
      let value ← resolve stored first
      let values ← resolveEntries stored rest
      return (key, value) :: values
termination_by structural entries => entries

end

end Term

end ExternalRepos

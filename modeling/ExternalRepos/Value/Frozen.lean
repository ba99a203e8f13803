import ExternalRepos.Value.Basic

/-!
# Frozen values

A specification outlives the call that made it, so it must not share anything
that the caller may still change. `freeze` turns every list into a tuple and
every mapping into an unchangeable one, at every value position and to any
depth; `thaw` goes the other way for a caller who wants values to work on.
Keys are left as they are.
-/

namespace ExternalRepos.Value

mutual

/-- The value with every list and mapping in it made unchangeable. -/
def freeze : Value → Value
  | .list items => .tuple (freezeItems items)
  | .tuple items => .tuple (freezeItems items)
  | .dict entries => .map (freezeEntries entries)
  | .map entries => .map (freezeEntries entries)
  | leaf => leaf
termination_by structural value => value

/-- Freezes every item. -/
def freezeItems : List Value → List Value
  | [] => []
  | item :: rest => freeze item :: freezeItems rest
termination_by structural items => items

/-- Freezes the value of every entry. -/
def freezeEntries : List (Value × Value) → List (Value × Value)
  | [] => []
  | (key, value) :: rest => (key, freeze value) :: freezeEntries rest
termination_by structural entries => entries

end

mutual

/-- The value with tuples opened to lists and mappings to changeable ones. -/
def thaw : Value → Value
  | .tuple items => .list (thawItems items)
  | .dict entries => .dict (thawEntries entries)
  | .map entries => .dict (thawEntries entries)
  | other => other
termination_by structural value => value

/-- Thaws every item. -/
def thawItems : List Value → List Value
  | [] => []
  | item :: rest => thaw item :: thawItems rest
termination_by structural items => items

/-- Thaws the value of every entry. -/
def thawEntries : List (Value × Value) → List (Value × Value)
  | [] => []
  | (key, value) :: rest => (key, thaw value) :: thawEntries rest
termination_by structural entries => entries

end

/-- The value with only its outermost list or mapping made unchangeable. -/
def freezeTop : Value → Value
  | .list items => .tuple items
  | .dict entries => .map entries
  | other => other

end ExternalRepos.Value

import ExternalRepos.OrderedMap
import ExternalRepos.Session.Step

/-!
# Definition files

A definition file defines, by variable, module extensions, functions and plain
values, and the rules that the programs in it may name; it is kept as what it
defines. Every file also has the operations that all objects have. Some of them
compare it with anything that they are called with, and so accept a context; the
others take something else or nothing at all.
-/

namespace ExternalRepos

/-- What a variable of a definition file holds. -/
inductive Definition
  /-- A module extension, with the program of its implementation. -/
  | extension (name : String) (body : List Step)
  | function (body : List Step)
  | value (value : Value)
  deriving Inhabited

/-- What a definition file defines. -/
structure DefinitionFile where
  /-- The rules by identifier. -/
  rules : OrderedMap RuleClass
  bindings : OrderedMap Definition
  deriving Inhabited

/-- Something in a definition file that can be called. -/
inductive Operation
  | program (body : List Step)
  /-- Takes anything and does nothing with it. -/
  | comparison
  /-- Takes no context. -/
  | other
  deriving Inhabited

namespace Operation

/-- The names of the comparisons that every file has. -/
def comparisons : List String :=
  ["__eq__", "__ne__", "__lt__", "__le__", "__gt__", "__ge__", "__subclasshook__"]

/-- The names of the other operations that every file has. -/
def others : List String := [
  "__class__", "__delattr__", "__dir__", "__format__", "__getattribute__", "__getstate__",
  "__hash__", "__init__", "__init_subclass__", "__new__", "__reduce__", "__reduce_ex__",
  "__repr__", "__setattr__", "__sizeof__", "__str__"]

/-- The operation of a given name that every file has. -/
def ofName? (name : String) : Option Operation :=
  if comparisons.contains name then some .comparison
  else if others.contains name then some .other
  else none

end Operation

namespace DefinitionFile

/-- A file that defines nothing. -/
def empty : DefinitionFile := ⟨∅, ∅⟩

/-- The module extensions by name, in the order of their variables. -/
def extensions (file : DefinitionFile) : List (String × List Step) :=
  file.bindings.entries.filterMap fun entry =>
    match entry.2 with
    | .extension name body => some (name, body)
    | _ => none

/-- What can be called under a name: the function of a variable, or what every file has. -/
def operation? (file : DefinitionFile) (name : String) : Option Operation :=
  match file.bindings.get? name with
  | some (.function body) => some (.program body)
  | some _ => none
  | none => Operation.ofName? name

end DefinitionFile

end ExternalRepos

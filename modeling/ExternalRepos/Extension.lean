import ExternalRepos.Event
import ExternalRepos.Specification.Basic

/-!
# Module extensions

A module extension generates repositories for the module that uses it. The
canonical name of a generated repository is the name chosen by the extension
behind a prefix made of module and extension, each closed by the separator.
-/

namespace ExternalRepos

/-- A module extension, without its implementation. -/
structure ModuleExtension where
  name : String
  doc : String
  deriving DecidableEq, Inhabited

namespace ModuleExtension

/-- A text unless it is absent or empty, else another one. -/
def firstNonempty (preferred : Option String) (otherwise : String) : String :=
  match preferred with
  | some text => if text = "" then otherwise else text
  | none => otherwise

/-- The extension made from a function: its own name and documentation unless others are given. -/
def ofFunction (functionName : String) (functionDoc name doc : Option String) :
    ModuleExtension where
  name := firstNonempty name functionName
  doc := firstNonempty doc (functionDoc.getD "")

/-- What stands in front of the chosen names in the canonical names of an extension. -/
def repoPrefix (module extension separator : String) : String :=
  module ++ separator ++ separator ++ extension ++ separator

/-- The name of an extension as used by a module. -/
def identifier (module extension : String) : String :=
  module ++ "%" ++ extension

end ModuleExtension

/-- What a successful evaluation of an extension gives. -/
structure EvaluationResult where
  id : String
  repoPrefix : String
  repos : OrderedMap Specification
  events : List Event
  deriving DecidableEq, Inhabited

/-- The canonical name of a repository of the evaluation. -/
def EvaluationResult.canonicalName (result : EvaluationResult) (name : String) : String :=
  result.repoPrefix ++ name

end ExternalRepos

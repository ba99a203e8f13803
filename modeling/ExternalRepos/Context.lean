import ExternalRepos.Location
import ExternalRepos.Reference
import ExternalRepos.Settings.Basic
import ExternalRepos.Text.Quoted

/-!
# Evaluation contexts

A context is handed to the code of one evaluation. Through it the code reaches
the registry of the evaluation, or the marks of a vendor file, as long as they
are attached; and it tells where the call comes from that is being made.
-/

namespace ExternalRepos

/-- The state of one logical thread of extension code. -/
structure Context where
  label : String
  semanticsVersion : String
  /-- The position of the call that is being made. -/
  caller : Location
  /-- The registry that rule calls declare into, while one is attached. -/
  registry : Option Reference
  /-- The marks that vendor calls add to, while there are any. -/
  vendor : Option Reference
  deriving DecidableEq, Inhabited

namespace Context

/-- The label of a context that was given none. -/
def unknownLabel : String := "<unknown>"

/-- A context with nothing attached; its version is that of the settings unless one is given. -/
def create (settings : Settings) (label version : Option String) : Context where
  label := label.getD unknownLabel
  semanticsVersion := settings.chooseVersion version
  caller := .builtin
  registry := none
  vendor := none

/-- How a context shows itself. -/
def written (context : Context) : String :=
  "EvaluationContext(label=" ++ Text.quote context.label ++ ")"

/-- The context during a call from another position. -/
def calledFrom (context : Context) (caller : Location) : Context :=
  { context with caller := caller }

/-- The context with a registry attached. -/
def attach (context : Context) (registry : Reference) : Context :=
  { context with registry := some registry }

/-- The context without a registry. -/
def detach (context : Context) : Context :=
  { context with registry := none }

end Context

end ExternalRepos

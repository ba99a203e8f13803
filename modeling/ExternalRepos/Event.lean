import ExternalRepos.Location

/-!
# Events

The diagnostics that an evaluation posts along the way. An event does not stop
anything; it is kept, in order, for whoever asked for the evaluation.
-/

namespace ExternalRepos

/-- The severity of an event. -/
inductive EventKind
  | error
  | warning
  | info
  | debug
  deriving DecidableEq, Inhabited

namespace EventKind

/-- The name of a severity. -/
def name : EventKind → String
  | .error => "error"
  | .warning => "warning"
  | .info => "info"
  | .debug => "debug"

/-- The name of a severity in front of a message. -/
def heading : EventKind → String
  | .error => "ERROR"
  | .warning => "WARNING"
  | .info => "INFO"
  | .debug => "DEBUG"

/-- Every severity. -/
def all : List EventKind := [.error, .warning, .info, .debug]

/-- The severity of a given name. -/
def ofName? (name : String) : Option EventKind :=
  all.find? fun kind => kind.name = name

end EventKind

/-- A diagnostic, with the source position that it is about if there is one. -/
structure Event where
  kind : EventKind
  message : String
  location : Option Location
  deriving DecidableEq, Inhabited

namespace Event

/-- The line that shows an event. -/
def written (event : Event) : String :=
  match event.location with
  | some location => event.kind.heading ++ ": " ++ location.written ++ ": " ++ event.message
  | none => event.kind.heading ++ ": " ++ event.message

end Event

/-- What an operation yields besides the events it posted, in order. -/
structure Noted (α : Type) where
  events : List Event
  outcome : α

end ExternalRepos

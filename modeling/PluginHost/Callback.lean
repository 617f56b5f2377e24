import PluginHost.Log.Record

/-!
How calls of plugin code end: well, with an error of its own, or in a panic,
which whoever called turns into an error.
-/
namespace PluginHost

/-- How plugin code breaks off. -/
structure Panic where
  /-- What it says about itself; nothing if that is no text. -/
  reason : Option String
  deriving DecidableEq, Repr

/-- How a call of plugin code fails. -/
inductive CallbackError where
  | failed (message : String)
  | panicked (message : String)
  deriving DecidableEq, Repr

namespace CallbackError

/-- The error a panic is turned into. -/
def ofPanic (p : Panic) : CallbackError :=
  .panicked (p.reason.getD "Unknown panic reason")

/-- The wording of a callback error. -/
def message : CallbackError → String
  | .failed text => text
  | .panicked text => "panicked: " ++ text

end CallbackError

/-- How a call ended. -/
abbrev Outcome := Except CallbackError Unit

/-- What one call does: the records it writes and how it ends. -/
structure Reaction where
  log : List LogRecord
  outcome : Outcome

end PluginHost

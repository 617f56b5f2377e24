import PluginHost.Callback
import PluginHost.Event

/-!
Listeners: the parts of plugin code that the host calls with the payload of
an event.
-/
namespace PluginHost

/-- A listener: where it comes from, what it is called there, and how it reacts. -/
structure Listener where
  /-- The code it is a part of. -/
  origin : String
  name : String
  react : Payload → Reaction

/-- One call of a listener that is still to be made. -/
structure Call where
  listener : Listener
  payload : Payload

namespace Call

/-- What a call does once it is made. -/
def reaction (c : Call) : Reaction := c.listener.react c.payload

/-- The records a call writes. -/
def log (c : Call) : List LogRecord := c.reaction.log

/-- How a call ends. -/
def outcome (c : Call) : Outcome := c.reaction.outcome

end Call

end PluginHost

/-!
Events: what happens in the host and is told to plugins, and what is told
with it. Every event has a conventional listener name; code that has a
callback of that name hears the event without registering for it.
-/
namespace PluginHost

/-- The classes of tasks; an earlier class runs first. -/
inductive Priority where
  | high
  | regular
  | info
  deriving DecidableEq, Repr, Inhabited

namespace Priority

/-- The place of a class in the order. -/
def rank : Priority → Nat
  | .high => 0
  | .regular => 1
  | .info => 2

/-- The name of a class. -/
def name : Priority → String
  | .high => "high"
  | .regular => "regular"
  | .info => "info"

end Priority

/-- What plugins can hear of. -/
inductive Event where
  | generalInfo
  | userInfo
  | serverStartup
  | serverStop
  | playerJoin
  | playerLeft
  | pluginLoad
  | pluginUnload
  | hostStop
  deriving DecidableEq, Repr

namespace Event

/-- Every event. -/
def all : List Event :=
  [.generalInfo, .userInfo, .serverStartup, .serverStop, .playerJoin, .playerLeft, .pluginLoad,
   .pluginUnload, .hostStop]

def id : Event → String
  | .generalInfo => "mcdr.general_info"
  | .userInfo => "mcdr.user_info"
  | .serverStartup => "mcdr.server_startup"
  | .serverStop => "mcdr.server_stop"
  | .playerJoin => "mcdr.player_joined"
  | .playerLeft => "mcdr.player_left"
  | .pluginLoad => "mcdr.plugin_loaded"
  | .pluginUnload => "mcdr.plugin_unloaded"
  | .hostStop => "mcdr.mcdr_stop"

/-- The name of an event for people. -/
def title : Event → String
  | .generalInfo => "General info"
  | .userInfo => "User info"
  | .serverStartup => "Server startup"
  | .serverStop => "Server stop"
  | .playerJoin => "Player joined"
  | .playerLeft => "Player left"
  | .pluginLoad => "Plugin loaded"
  | .pluginUnload => "Plugin unloaded"
  | .hostStop => "MCDR stop"

/-- The name of the callback that hears an event by convention. -/
def listenerName : Event → String
  | .generalInfo => "on_info"
  | .userInfo => "on_user_info"
  | .serverStartup => "on_server_startup"
  | .serverStop => "on_server_stop"
  | .playerJoin => "on_player_joined"
  | .playerLeft => "on_player_left"
  | .pluginLoad => "on_load"
  | .pluginUnload => "on_unload"
  | .hostStop => "on_mcdr_stop"

def ofId? (id : String) : Option Event :=
  all.find? fun e => e.id = id

/-- Lines of text come in great numbers and wait behind everything else. -/
def priority : Event → Priority
  | .generalInfo | .userInfo => .info
  | _ => .regular

/-- An event as it is shown in records. -/
def text (e : Event) : String :=
  "PluginEvent[" ++ e.id ++ "]"

theorem mem_all (e : Event) : e ∈ all := by cases e <;> decide

end Event

/-- What is told with an event. -/
inductive Payload where
  | none
  /-- A line the server or a person wrote. -/
  | info (content : String) (player : Option String)
  | player (name : String)
  /-- How the server ended; nothing if a signal ended it. -/
  | serverStop (code : Option Int)
  deriving DecidableEq, Repr, Inhabited

/-- The line, if the payload has one. -/
def Payload.content? : Payload → Option String
  | .info content _ => some content
  | _ => Option.none

end PluginHost

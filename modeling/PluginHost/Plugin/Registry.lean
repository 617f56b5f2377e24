import PluginHost.Language
import PluginHost.Plugin.Listener
import PluginHost.Text.Uppercase

/-!
Registries: the listeners and help entries of one plugin, and the union of
those of all running plugins, which is what the operator sees.
-/
namespace PluginHost

/-- A listener registered for an event. -/
structure ListenerEntry where
  event : Event
  pluginId : String
  listener : Listener
  /-- Lower runs first. -/
  priority : Int

/-- A line of the help text. -/
structure HelpEntry where
  /-- The plugin it belongs to; nothing for the host. -/
  pluginId : Option String
  /-- The word the described commands start with. -/
  command : String
  message : String
  permission : Nat
  deriving DecidableEq, Repr

/-- The priority of listeners that do not ask for one. -/
def defaultListenerPriority : Int := 1000

/-- What one plugin registered, in the order it did. -/
structure Registry where
  pluginId : String
  listeners : List ListenerEntry
  help : List HelpEntry

namespace Registry

/-- A registry without entries. -/
def ofId (pluginId : String) : Registry := ⟨pluginId, [], []⟩

def addListener (r : Registry) (event : Event) (listener : Listener) (priority : Int) : Registry :=
  { r with listeners := r.listeners ++ [⟨event, r.pluginId, listener, priority⟩] }

/-- Add a help entry. -/
def addHelp (r : Registry) (command message : String) (permission : Nat) : Registry :=
  { r with help := r.help ++ [⟨some r.pluginId, command, message, permission⟩] }

/-- Drop all entries. -/
def clear (r : Registry) : Registry := ofId r.pluginId

/-- The listeners for an event, in the order they were registered. -/
def listenersOf (r : Registry) (event : Event) : List ListenerEntry :=
  r.listeners.filter (·.event = event)

def isEmpty (r : Registry) : Bool :=
  r.listeners.isEmpty && r.help.isEmpty

@[simp]
theorem listenersOf_addListener (r : Registry) (e event : Event) (l : Listener) (p : Int) :
    (r.addListener event l p).listenersOf e =
      r.listenersOf e ++ if event = e then [⟨event, r.pluginId, l, p⟩] else [] := by
  simp only [listenersOf, addListener, List.filter_append]
  split <;> simp_all

@[simp]
theorem listenersOf_addHelp (r : Registry) (e : Event) (c m : String) (p : Nat) :
    (r.addHelp c m p).listenersOf e = r.listenersOf e := rfl

end Registry

/-- The union of registries. -/
structure MergedRegistry where
  listeners : List ListenerEntry
  help : List HelpEntry

namespace MergedRegistry

/-- A union of nothing. -/
def empty : MergedRegistry := ⟨[], []⟩

/-- Add the entries of a plugin behind those of others. -/
def collect (m : MergedRegistry) (r : Registry) : MergedRegistry :=
  ⟨m.listeners ++ r.listeners, m.help ++ r.help⟩

def listenersOf (m : MergedRegistry) (event : Event) : List ListenerEntry :=
  m.listeners.filter (·.event = event)

/-- The word every command of the host starts with. -/
def hostCommand : String := "!!MCDR"

/-- The permission the host's own commands ask for. -/
def hostPermission : Nat := 3

def hostHelp (language : Language) : HelpEntry :=
  ⟨none, hostCommand, language.message "plugin_registry.mcdr_help_message" [], hostPermission⟩

/-- Help entries go by their command, with its first character in upper case. -/
def helpKey (h : HelpEntry) : String := Text.capitalize h.command

/-- Whether one help entry may stand before another. -/
def helpLe (a b : HelpEntry) : Bool := !decide (helpKey b < helpKey a)

/-- Whether one listener may run before another. -/
def listenerLe (a b : ListenerEntry) : Bool := decide (a.priority ≤ b.priority)

/-- Add the help of the host and bring everything into the order it is shown and called in; equals
stay in the order they were collected. -/
def arrange (m : MergedRegistry) (language : Language) : MergedRegistry :=
  ⟨m.listeners.mergeSort listenerLe, (m.help ++ [hostHelp language]).mergeSort helpLe⟩

end MergedRegistry

end PluginHost

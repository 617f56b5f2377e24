import PluginHost.Plugin.Error
import PluginHost.Plugin.Registry

/-!
Plugin code as the host sees it, and the loader that brings it in. What a
loader does may depend on everything it was asked before, so it is given the
history of its calls.
-/
namespace PluginHost

/-- What code asks for when it registers. -/
inductive Registration where
  | listener (event : Event) (priority : Int) (listener : Listener)
  | help (command message : String) (permission : Nat)

/-- The code of a plugin. Each question to it may end in a panic. -/
structure PluginCode where
  /-- What it says about itself, if anything. -/
  metadata : Except Panic (Option Json)
  /-- What it registers, in order. -/
  registrations : Except Panic (List Registration)
  /-- Its callback of a name, if it has one. -/
  callback : String → Except Panic (Option Listener)

/-- Something a load brought in and an unload has to give back. -/
structure SubUnit where
  name : String
  /-- Which load it came with. -/
  load : Nat
  /-- Why it cannot be given back, if it cannot. -/
  fault : Option String
  deriving DecidableEq, Repr

/-- What a load hands out. -/
structure LoadedCode where
  code : PluginCode
  subUnits : List SubUnit

/-- A call of the loader with its answer. -/
inductive LoaderCall where
  | load (path : Path) (result : Except PluginError LoadedCode)
  | unload (subUnits : List SubUnit) (result : Except PluginError Unit)

namespace LoaderCall

def handedOut : LoaderCall → List SubUnit
  | .load _ (.ok loaded) => loaded.subUnits
  | _ => []

/-- The sub-units a call gave back, whether or not that went well. -/
def handedBack : LoaderCall → List SubUnit
  | .unload subUnits _ => subUnits
  | _ => []

def loadedCode : LoaderCall → Bool
  | .load _ (.ok _) => true
  | _ => false

end LoaderCall

/-- Where plugin code comes from. -/
structure Loader where
  load : List LoaderCall → FileSystem → Path → Except PluginError LoadedCode
  unload : List LoaderCall → List SubUnit → Except PluginError Unit
  /-- What is reported about sub-units that are given back. -/
  unloadLog : List SubUnit → List LogRecord

namespace Registry

/-- Make one registration. -/
def register (r : Registry) : Registration → Registry
  | .listener event priority listener => r.addListener event listener priority
  | .help command message permission => r.addHelp command message permission

/-- Make some registrations. -/
def registerAll (r : Registry) (registrations : List Registration) : Registry :=
  registrations.foldl register r

/-- Register listeners under the conventional priority. -/
def addDefaults (r : Registry) (listeners : List (Event × Listener)) : Registry :=
  listeners.foldl (fun r l => r.addListener l.1 l.2 defaultListenerPriority) r

end Registry

end PluginHost

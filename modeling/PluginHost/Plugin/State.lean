/-!
The states of a plugin, from a file nobody looked at to code that is gone.
-/
namespace PluginHost

/-- How far a plugin has come. -/
inductive UnitState where
  | uninitialized
  | loaded
  | ready
  | unloading
  | unloaded
  deriving DecidableEq, Repr

namespace UnitState

def name : UnitState → String
  | .uninitialized => "UNINITIALIZED"
  | .loaded => "LOADED"
  | .ready => "READY"
  | .unloading => "UNLOADING"
  | .unloaded => "UNLOADED"

end UnitState

end PluginHost

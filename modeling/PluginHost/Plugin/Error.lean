import PluginHost.Dependency.Graph
import PluginHost.FileSystem
import PluginHost.Plugin.State

/-!
What can go wrong with a single plugin.
-/
namespace PluginHost

/-- Why an operation on a plugin failed. -/
inductive PluginError where
  /-- Its code could not be loaded, or broke off while it was asked about itself. -/
  | load (path : Path) (message : String)
  | illegalState (plugin : String) (expected : List UnitState) (actual : UnitState)
  | duplicateId (id : String) (path existing : Path)
  | invalidMetadata (id message : String)
  | version (cause : VersionError)
  | dependency (cause : Dependency.Failure)
  | unload (id message : String)
  | file (path : Path) (cause : FileError)
  | notFound (what : String)
  deriving DecidableEq, Repr

/-- The wording of a plugin error. -/
def PluginError.message : PluginError → String
  | .load path message => "Failed to load plugin from '" ++ path.text ++ "': " ++ message
  | .illegalState plugin expected actual => "Plugin " ++ plugin ++ " is in state " ++ actual.name ++
      ", expected one of [" ++ ", ".intercalate (expected.map UnitState.name) ++ "]"
  | .duplicateId id path existing => "Plugin id '" ++ id ++ "' from '" ++ path.text ++
      "' is already used by '" ++ existing.text ++ "'"
  | .invalidMetadata id message => "Invalid metadata for '" ++ id ++ "': " ++ message
  | .version cause => "Version error: " ++ cause.message
  | .dependency cause => "Dependency check failed: " ++ cause.message
  | .unload id message => "Failed to unload plugin '" ++ id ++ "': " ++ message
  | .file path cause => "I/O error on '" ++ path.text ++ "': " ++ cause.message
  | .notFound what => "Plugin '" ++ what ++ "' not found"

end PluginHost

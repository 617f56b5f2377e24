import PluginHost.Plugin.Error
import PluginHost.Pool.Error

/-!
What can go wrong with the host as a whole.
-/
namespace PluginHost

/-- Why an operation of the host failed. -/
inductive HostError where
  | plugin (cause : PluginError)
  | pool (cause : PoolError)
  | config (path : Path) (message : String)
  | file (cause : FileError) (operation : String) (path : Path)
  | other (message : String)
  deriving DecidableEq, Repr

/-- The wording of a host error. -/
def HostError.message : HostError → String
  | .plugin cause => "Plugin system error: " ++ cause.message
  | .pool cause => "Worker pool error: " ++ cause.message
  | .config path message => "Configuration error in '" ++ path.text ++ "': " ++ message
  | .file cause operation path => "I/O error during operation '" ++ operation ++ "' on path '" ++
      path.text ++ "': " ++ cause.message
  | .other message => "Error: " ++ message

end PluginHost

import PluginHost.Text.Digits

/-!
What can go wrong with the worker pool itself.
-/
namespace PluginHost

/-- Why the pool refused or lost something. -/
inductive PoolError where
  | shutDown (task : String)
  | spawn (worker cause : String)
  /-- Workers that were still busy when the time for a shutdown was over. -/
  | shutdownTimeout (workers : List String)
  | outcomeLost (task : String)
  deriving DecidableEq, Repr

/-- The wording of a pool error. -/
def PoolError.message : PoolError → String
  | .shutDown task => "Worker pool is shut down, task '" ++ task ++ "' rejected"
  | .spawn worker cause => "Failed to spawn worker thread '" ++ worker ++ "': " ++ cause
  | .shutdownTimeout workers => Text.ofNat workers.length ++
      " worker(s) still running after shutdown timeout: " ++ ", ".intercalate workers
  | .outcomeLost task => "Task '" ++ task ++ "' finished without reporting its outcome"

end PluginHost

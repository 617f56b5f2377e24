import PluginHost.Outside.Shell.Signal
import PluginHost.Outside.Shell.State

/-!
The exit of a script: what is set for it is done last, however the script came
to its end, unless that was by a signal.
-/
namespace PluginHost.Shell

/-- Do what is set for a signal or the exit. -/
def act (run : Command → Run Unit) (action : String) : Run Unit := do
  let before ← get
  set { before with trapped := some before.status }
  run (Command.read action)
  modify fun s => { s with trapped := before.trapped, status := before.status }

/-- Run a whole script and do what is set for its exit. -/
def untilExit (run : Command → Run Unit) (body : Run Unit) : Run Unit := do
  tryCatch body fun
    | .exited code => answer code
    | .leave _ | .again _ | .returned => pure ()
    | stop => throw stop
  let s ← get
  let name := Signal.name Signal.exit
  set { s with traps := s.traps.filter (·.1 != name), depth := 0, loops := 0 }
  if let some action := s.traps.lookup name then act run action
  throw (.exited (← get).status)

end PluginHost.Shell

import PluginHost.Console.Command
import PluginHost.Host.Operations

/-!
What a command does to the host, and the lines it prints.
-/
namespace PluginHost.Console

/-- The name and the version of the host for people. -/
def banner : String := "MCDReforged 2.0.0"

/-- What comes of a command: the host after it, the lines printed, and whether the session goes
on. -/
structure Effect where
  host : Host
  lines : List String
  stop : Bool

/-- The printed lines as one text. -/
def Effect.output (e : Effect) : String := String.join (e.lines.map (· ++ "\n"))

/-- The file an operator means: a name alone is looked up in the plugin directories. -/
def resolve (h : Host) (name : String) : Path :=
  let given : Path := ⟨name⟩
  if 1 < given.steps.length then given
  else
    ((h.settings.directories.map (·.join name)).find? h.files.isFile).getD given

/-- The lines about a batch. -/
def resultLines (h : Host) (result : BatchResult) : List String :=
  (result.failures.map fun (phase, target) => "  " ++ phase ++ " failed: " ++ target.title) ++
    [result.summary h.language h.count]

def showResult (r : Host × BatchResult) : Effect :=
  ⟨r.1, resultLines r.1 r.2, false⟩

/-- Show the result of an operation, or one line in its place if it failed. -/
def showOr (r : Host × Except PluginError BatchResult) (failed : PluginError → String) : Effect :=
  match r.2 with
  | .ok result => showResult (r.1, result)
  | .error e => ⟨r.1, [failed e], false⟩

/-- The lines of the help text. -/
def helpLines (h : Host) : List String :=
  (h.exported.help.map fun entry => entry.command ++ ": " ++ entry.message) ++
    [MergedRegistry.hostCommand ++ " plugin list|load|unload|reload|enable|disable",
     MergedRegistry.hostCommand ++ " reload plugin|all",
     MergedRegistry.hostCommand ++ " status|stop"]

/-- The lines about the state of the host. -/
def statusLines (h : Host) : List String :=
  [banner, "Plugins: " ++ Text.ofNat h.count,
   "Worker pool: " ++ Text.ofNat h.pool.size ++ " workers, " ++ Text.ofNat h.pool.busy ++ " busy, " ++
     Text.ofNat h.pool.queued ++ " queued"] ++
  (h.pool.runningUnits.map fun (worker, owner) => "  " ++ worker ++ " -> " ++ owner.getD "idle") ++
  (h.lastSummary?.map fun line => "Last operation: " ++ line).toList

/-- Do what a command asks for. -/
def execute (h : Host) (command : Command) : Effect :=
  let notFound (id : String) (_ : PluginError) : String :=
    h.language.message "console.plugin_not_found" [id]
  match command with
  | .help => ⟨h, helpLines h, false⟩
  | .status => ⟨h, statusLines h, false⟩
  | .stop => ⟨h, [], true⟩
  | .listPlugins => ⟨h, [h.language.message "console.plugin_list"
      [Text.ofNat h.titles.length, ", ".intercalate h.titles]], false⟩
  | .refreshChanged => showResult h.refreshChanged
  | .refreshAll => showResult h.refreshAll
  | .loadPlugin file => showResult (h.loadPlugin (resolve h file))
  | .unloadPlugin id => showOr (h.unloadPlugin id) (notFound id)
  | .reloadPlugin id => showOr (h.reloadPlugin id) (notFound id)
  | .enablePlugin file => showOr (h.enablePlugin (resolve h file)) PluginError.message
  | .disablePlugin file => showOr (h.disablePlugin (resolve h file)) PluginError.message
  | .unknown words => ⟨h, [h.language.message "console.unknown_command" [words]], false⟩

end PluginHost.Console

import PluginHost.Host.Batch

/-!
What an operator can have done to plugins. Every operation is one batch,
some of them with a renaming of a file before or after it.
-/
namespace PluginHost.Host

def runBatch (h : Host) (plan : Batch.Plan) : Host × BatchResult :=
  let b := Batch.run plan h
  (b.host, b.result)

/-- Load one file. -/
def loadPlugin (h : Host) (path : Path) : Host × BatchResult :=
  h.runBatch { Batch.Plan.none with discover := some [path] }

def unloadPlugin (h : Host) (id : String) : Host × Except PluginError BatchResult :=
  if h.table.containsId id then
    let (h, result) := h.runBatch { Batch.Plan.none with prune := some fun u => u.id = id }
    (h, .ok result)
  else (h, .error (.notFound id))

/-- Load the plugin with an id again. -/
def reloadPlugin (h : Host) (id : String) : Host × Except PluginError BatchResult :=
  if h.table.containsId id then
    let (h, result) := h.runBatch { Batch.Plan.none with refresh := some fun u => u.id = id }
    (h, .ok result)
  else (h, .error (.notFound id))

/-- Bring the tracked units in line with the plugin directories: units whose file is gone or lies
elsewhere go, new files are loaded, and units a condition selects are loaded again. -/
def refreshIf (h : Host) (condition : PluginUnit → Bool) : Host × BatchResult :=
  let (found, warnings) := h.scan
  let stale (u : PluginUnit) : Bool := !u.fileExists h.files || !found.any u.path.same
  (h.write warnings).runBatch
    { prune := some stale, discover := some found, refresh := some condition }

/-- Bring the tracked units in line and load all of them again. -/
def refreshAll (h : Host) : Host × BatchResult :=
  h.refreshIf fun _ => true

/-- Bring the tracked units in line and load those again whose file changed. -/
def refreshChanged (h : Host) : Host × BatchResult :=
  h.refreshIf fun u => u.fileChanged h.files

/-- Unload everything. -/
def unloadAll (h : Host) : Host × BatchResult :=
  h.runBatch { Batch.Plan.none with prune := some fun _ => true }

/-- Rename a file; a failure is reported. -/
def renameFile (h : Host) (source dest : Path) : Host × Except PluginError Unit :=
  match h.files.rename source dest with
  | .ok files => ({ h with files }, .ok ())
  | .error e =>
    (h.tell .error "plugin_manager.rename_failed" [source.text, dest.text, e.message],
      .error (.file source e))

/-- The path of a disabled file without the suffix that disables it. -/
def enabledPath (h : Host) (path : Path) : Path :=
  ⟨dropSuffix path.text h.settings.disabledSuffix⟩

/-- The path of a file with the suffix that disables it. -/
def disabledPath (h : Host) (path : Path) : Path :=
  ⟨path.text ++ h.settings.disabledSuffix⟩

/-- Take the disabled suffix off a file and load it. -/
def enablePlugin (h : Host) (path : Path) : Host × Except PluginError BatchResult :=
  if h.files.isFile path then
    match h.renameFile path (h.enabledPath path) with
    | (h', .error e) => (h', .error e)
    | (h', .ok ()) =>
      let (h', result) := h'.loadPlugin (h.enabledPath path)
      (h', .ok result)
  else
    (h.tell .warn "plugin_manager.enable_plugin.not_found" [path.text], .error (.notFound path.text))

/-- Unload the plugin a file belongs to, if it is tracked, and put the disabled suffix on the
file. -/
def disablePlugin (h : Host) (path : Path) : Host × Except PluginError BatchResult :=
  if h.files.isFile path then
    let (h', result) :=
      h.runBatch { Batch.Plan.none with prune := some fun u => u.path.same path }
    match h'.renameFile path (h.disabledPath path) with
    | (h', .error e) => (h', .error e)
    | (h', .ok ()) => (h', .ok result)
  else
    (h.tell .warn "plugin_manager.disable_plugin.not_found" [path.text], .error (.notFound path.text))

end PluginHost.Host

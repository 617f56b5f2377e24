import PluginHost.Dependency.Walk
import PluginHost.Host.Table

/-!
The host: the units it tracks, the pool that runs their listeners, and what
it last did and showed. This module holds the state and what can be asked of
it; the modules beside it change it.
-/
namespace PluginHost

/-- What a host is set up with. -/
structure HostSettings where
  directories : List Path
  /-- How plugin files end. -/
  suffix : String
  /-- What is put behind the name of a file to disable it. -/
  disabledSuffix : String
  identity : HostIdentity
  debug : DebugOptions

/-- A host and the world it works in. -/
structure Host where
  settings : HostSettings
  language : Language
  loader : Loader
  files : FileSystem
  /-- All calls of the loader and all records so far. -/
  trace : Trace
  table : UnitTable
  /-- The result of the latest batch. -/
  last : Option BatchResult
  /-- What operators see of the plugins that run. -/
  exported : MergedRegistry
  /-- Every registry that was exported, in order. -/
  exports : List MergedRegistry
  pool : Pool Call

namespace Host

/-- A host that tracks nothing. -/
def create (settings : HostSettings) (language : Language) (loader : Loader) (files : FileSystem)
    (pool : Pool Call) : Host :=
  { settings, language, loader, files, pool, trace := .empty, table := .empty, last := none,
    exported := .empty, exports := [] }

/-- What units work with. -/
def env (h : Host) : UnitEnv :=
  { loader := h.loader, files := h.files, suffix := h.settings.suffix, language := h.language,
    debug := h.settings.debug }

def write (h : Host) (records : List LogRecord) : Host :=
  { h with trace := h.trace.write records }

/-- Write a record about plugins. -/
def report (h : Host) (level : Level) (text : String) : Host :=
  h.write [pluginLog level text]

/-- Write a message of the host's language about plugins. -/
def tell (h : Host) (level : Level) (key : String) (args : List String) : Host :=
  h.report level (h.language.message key args)

/-! ### Questions -/

/-- How many units are tracked. -/
def count (h : Host) : Nat := h.table.size

/-- The tracked units as shown to people. -/
def titles (h : Host) : List String := h.table.units.map PluginUnit.title

/-- The line about the latest batch. -/
def lastSummary? (h : Host) : Option String :=
  h.last.map fun r => r.summary h.language h.count

/-- The ids of the tracked units a condition selects, in ascending order. -/
def select (h : Host) (condition : PluginUnit → Bool) : List String :=
  (h.table.byId.filter fun e => condition e.2).map Prod.fst

/-- The tracked units with what they need. -/
def graph (h : Host) : Dependency.Graph :=
  ⟨h.settings.identity, h.table.byId.filterMap fun (id, u) =>
    u.metadata.map fun m => ⟨id, m.version, m.dependencies⟩⟩

/-- The plugin files in a directory; a directory that does not exist is reported. -/
def scanDirectory (h : Host) (dir : Path) : List Path × List LogRecord :=
  if h.files.isDirectory dir then (h.files.list dir h.settings.suffix, [])
  else ([], [pluginLog .warn
    (h.language.message "plugin_manager.plugin_directory_not_found" [dir.text])])

/-- The plugin files in all plugin directories, directory by directory. -/
def scan (h : Host) : List Path × List LogRecord :=
  let found := h.settings.directories.map h.scanDirectory
  (found.flatMap Prod.fst, found.flatMap Prod.snd)

/-! ### Dispatch -/

/-- The listeners of the running units for an event: by priority, then in the order of ids, then in
the order they were registered. -/
def listenersFor (h : Host) (event : Event) : List ListenerEntry :=
  (((h.table.units.filter (·.state = .ready)).flatMap fun u => u.registry.listenersOf event)).mergeSort
    MergedRegistry.listenerLe

/-- Submit a task for each listener of the running units for an event. -/
def dispatch (h : Host) (event : Event) (payload : Payload) : Host × Except HostError Nat :=
  let s := submitAll h.pool ((h.listenersFor event).map (·.task payload))
  ({ h with pool := s.pool }.write s.log, s.result)

/-- Let workers make all calls that are submitted. -/
def settle (h : Host) : Host :=
  { h with pool := h.pool.settle (fun _ => false) Call.outcome }

/-- Close the pool once workers are done with what they are at. -/
def shutdownPool (h : Host) : Host × Except PoolError Unit :=
  let (pool, result) := h.pool.shutdown (fun _ => false) Call.outcome
  ({ h with pool }.write h.pool.closeLog, result)

end Host

end PluginHost

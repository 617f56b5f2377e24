import PluginHost.Host.Error
import PluginHost.Host.Result
import PluginHost.Metadata
import PluginHost.Plugin.Trace
import PluginHost.Pool.Settle

/-!
A plugin unit: one plugin file with its code and its life.

    uninitialized -> loaded -> ready -> unloading -> unloaded

Reloading asks for the code again without a change of state. When it fails,
the previous code and registry stay, so that the plugin still hears that it
goes; whoever asked for the reload has to unload it.
-/
namespace PluginHost

/-- A plugin file with what is known and loaded of it. -/
structure PluginUnit where
  path : Path
  state : UnitState
  /-- The fingerprint of the file when it was loaded last. -/
  fingerprint : Option String
  metadata : Option Metadata
  registry : Registry
  /-- Listeners found by convention that are registered once the unit is ready. -/
  defaults : List (Event × Listener)
  code : Option PluginCode
  subUnits : List SubUnit

/-- What loading a file brought. -/
structure FreshLoad where
  code : PluginCode
  subUnits : List SubUnit
  metadata : Metadata
  registry : Registry
  defaults : List (Event × Listener)
  fingerprint : Option String

namespace PluginUnit

/-- A file nobody looked at yet. -/
def ofPath (path : Path) : PluginUnit :=
  { path, state := .uninitialized, fingerprint := none, metadata := none, registry := .ofId "",
    defaults := [], code := none, subUnits := [] }

def fileName (u : PluginUnit) : String := u.path.shortName

/-- The plugin's id, or the name of its file as long as it has none. -/
def id (u : PluginUnit) : String :=
  match u.metadata with
  | some m => m.id
  | none => u.fileName

/-- The plugin as shown to people. -/
def title (u : PluginUnit) : String :=
  match u.metadata with
  | some m => m.title
  | none => u.fileName

/-- The plugin in results. -/
def target (u : PluginUnit) : Target :=
  match u.metadata with
  | some m => .plugin m.id m.version.text u.path
  | none => .file u.path

/-- Everything about a unit that tells it from others of its file. -/
def description (u : PluginUnit) : String :=
  "PluginUnit[" ++ u.fileName ++ ",path=" ++ u.path.text ++ ",state=" ++ u.state.name ++ "]"

/-- Whether the file still exists. -/
def fileExists (u : PluginUnit) (files : FileSystem) : Bool :=
  files.isFile u.path

/-- Whether the file is another one than was loaded. -/
def fileChanged (u : PluginUnit) (files : FileSystem) : Bool :=
  files.fingerprint? u.path != u.fingerprint

/-- Refuse what the state of a unit does not allow. -/
def require (u : PluginUnit) (expected : List UnitState) : Except PluginError Unit :=
  if u.state ∈ expected then .ok () else .error (.illegalState u.title expected u.state)

/-! ### Loading -/

/-- The listeners code has for events by convention, in the order of the events. -/
def conventional (code : PluginCode) : Except Panic (List (Event × Listener)) :=
  (fun found => found.filterMap fun l => l) <$> Event.all.mapM fun event =>
    (fun callback => callback.map (event, ·)) <$> code.callback event.listenerName

/-- What code says about itself and registers, with the warnings about it. Any of its answers may be
a panic. -/
def examine (env : UnitEnv) (fallbackId : String) (code : PluginCode) :
    List LogRecord × Except Panic (Metadata × Registry × List (Event × Listener)) :=
  match code.metadata with
  | .error panic => ([], .error panic)
  | .ok data =>
    let (metadata, warnings) := Metadata.extract env.language data fallbackId
    (warnings, do
      let registrations ← code.registrations
      let defaults ← conventional code
      return (metadata, (Registry.ofId metadata.id).registerAll registrations, defaults))

/-- Load the file of a unit. Code that panics is given back at once. -/
def freshLoad (u : PluginUnit) (env : UnitEnv) (t : Trace) : Except PluginError FreshLoad × Trace :=
  let fingerprint := env.files.fingerprint? u.path
  match t.load env u.path with
  | (.error e, t) => (.error e, t)
  | (.ok loaded, t) =>
    match examine env (dropSuffix u.fileName env.suffix) loaded.code with
    | (warnings, .ok (metadata, registry, defaults)) =>
      (.ok { code := loaded.code, subUnits := loaded.subUnits, metadata, registry, defaults,
             fingerprint }, t.write warnings)
    | (warnings, .error panic) =>
      let failure := PluginError.load u.path (CallbackError.ofPanic panic).message
      match (t.write warnings).unload env loaded.subUnits with
      | (.ok (), t) => (.error failure, t)
      | (.error e, t) =>
        (.error failure, t.report .error
          ("Failed to release " ++ u.fileName ++ " after a failed load: " ++ e.message))

/-- Take over what a load brought. -/
def adopt (u : PluginUnit) (fresh : FreshLoad) : PluginUnit :=
  { u with
    code := some fresh.code, subUnits := fresh.subUnits, metadata := some fresh.metadata,
    registry := fresh.registry, defaults := fresh.defaults, fingerprint := fresh.fingerprint }

/-- Register the listeners that are pending. -/
def registerDefaults (u : PluginUnit) : PluginUnit :=
  { u with registry := u.registry.addDefaults u.defaults, defaults := [] }

/-- Give back all sub-units. -/
def releaseSubUnits (u : PluginUnit) (env : UnitEnv) (t : Trace) :
    PluginUnit × Except PluginError Unit × Trace :=
  let records := if env.debug.shouldLog .plugin then
    u.subUnits.map fun s => pluginLog .debug ("Releasing " ++ s.name ++ " of plugin " ++ u.title)
  else []
  let (result, t) := (t.write records).unload env u.subUnits
  ({ u with subUnits := [] }, result, t)

/-- The fingerprint as shown in records. -/
def fingerprintText (u : PluginUnit) : String := u.fingerprint.getD "-"

/-! ### Operations -/

/-- What an operation makes of a unit, and whether it went well. -/
abbrev Step := PluginUnit × Except PluginError Unit × Trace

/-- Load an uninitialized unit. -/
def load (u : PluginUnit) (env : UnitEnv) (t : Trace) : Step :=
  match u.require [.uninitialized] with
  | .error e => (u, .error e, t)
  | .ok () =>
    match u.freshLoad env t with
    | (.error e, t) => (u, .error e, t)
    | (.ok fresh, t) =>
      let u := { u.adopt fresh with state := .loaded }
      (u, .ok (), t.report .debug ("Plugin " ++ u.title ++ " loaded from " ++ u.path.text ++
        ", file sha256 = " ++ u.fingerprintText))

/-- Make a loaded unit ready. -/
def ready (u : PluginUnit) : PluginUnit × Except PluginError Unit :=
  match u.require [.loaded] with
  | .error e => (u, .error e)
  | .ok () => ({ u.registerDefaults with state := .ready }, .ok ())

/-- Load the file of a loaded or ready unit again. The old sub-units are given back first; if that
or the load fails, the old code stays. -/
def reload (u : PluginUnit) (env : UnitEnv) (t : Trace) : Step :=
  match u.require [.loaded, .ready] with
  | .error e => (u, .error e, t)
  | .ok () =>
    match u.releaseSubUnits env t with
    | (u, .error e, t) => (u, .error e, t)
    | (u, .ok (), t) =>
      match u.freshLoad env t with
      | (.error e, t) => (u, .error e, t)
      | (.ok fresh, t) =>
        let u := u.adopt fresh
        let u := if u.state = .ready then u.registerDefaults else u
        (u, .ok (), t.report .debug ("Plugin " ++ u.title ++ " reloaded, file sha256 = " ++
          u.fingerprintText))

/-- Begin to unload a unit: its sub-units are given back, and its state changes even if that
fails. -/
def unload (u : PluginUnit) (env : UnitEnv) (t : Trace) : Step :=
  match u.require [.uninitialized, .loaded, .ready] with
  | .error e => (u, .error e, t)
  | .ok () =>
    let (u, result, t) := u.releaseSubUnits env t
    ({ u with state := .unloading }, result, t)

/-- End the life of a unit that is unloading: its code and registry go. -/
def remove (u : PluginUnit) : PluginUnit × Except PluginError Unit :=
  match u.require [.unloading] with
  | .error e => (u, .error e)
  | .ok () =>
    ({ u with state := .unloaded, registry := u.registry.clear, defaults := [], code := none }, .ok ())

/-- Register one more listener. -/
def addListener (u : PluginUnit) (event : Event) (listener : Listener) :
    PluginUnit × Except PluginError Unit :=
  match u.require [.loaded, .ready] with
  | .error e => (u, .error e)
  | .ok () =>
    ({ u with registry := u.registry.addListener event listener defaultListenerPriority }, .ok ())

end PluginUnit

/-! ### Events -/

def ListenerEntry.task (entry : ListenerEntry) (payload : Payload) : PoolTask Call :=
  { sequence := 0, priority := entry.event.priority, owner := some entry.pluginId,
    name := entry.event.listenerName, work := ⟨entry.listener, payload⟩ }

/-- What comes of submitting tasks. -/
structure Submitted where
  pool : Pool Call
  log : List LogRecord
  /-- How many tasks were taken, or why one was not. -/
  result : Except HostError Nat

/-- Submit tasks one by one until one is refused. -/
def submitAll (pool : Pool Call) (tasks : List (PoolTask Call)) : Submitted :=
  tasks.foldl (fun s task =>
    match s.result with
    | .error _ => s
    | .ok count =>
      match s.pool.submit task false with
      | .error e => { s with result := .error (.pool e) }
      | .ok (pool, worker) => ⟨pool, s.log ++ pool.dispatchLog task worker, .ok (count + 1)⟩)
    ⟨pool, [], .ok 0⟩

/-- Submit a task for each listener a unit has for an event. -/
def PluginUnit.receive (u : PluginUnit) (event : Event) (payload : Payload) (pool : Pool Call) :
    Submitted :=
  match u.require [.ready, .unloading] with
  | .error e => ⟨pool, [], .error (.plugin e)⟩
  | .ok () => submitAll pool ((u.registry.listenersOf event).map (·.task payload))

end PluginHost

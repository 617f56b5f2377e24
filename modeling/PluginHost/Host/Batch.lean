import PluginHost.Host.Basic

/-!
Batches: every change of the tracked units goes through the same phases.

1. Prune: chosen units go, with everything that needs them, dependents first.
2. Discover: units are loaded for files that are not tracked yet.
3. Refresh: chosen units are loaded again with everything that needs them,
   dependencies first; a unit that fails goes.
4. Validate: the dependency check; a unit that fails it goes.
5. Notify: new units become ready and hear of their loading, dependencies
   first; then units that went hear of it and end their life.

At the end the registry is exported again.
-/
namespace PluginHost

/-- A batch under way. -/
structure Batch where
  host : Host
  /-- Units that left the table, in the order they went. -/
  departed : List PluginUnit
  /-- Ids of units that were loaded or loaded again. -/
  fresh : List String
  result : BatchResult
  /-- The units that passed the dependency check, dependencies first. -/
  order : List String

namespace Batch

def start (host : Host) : Batch := ⟨host, [], [], .empty, []⟩

/-- Write a message about plugins. -/
def tell (b : Batch) (level : Level) (key : String) (args : List String) : Batch :=
  { b with host := b.host.tell level key args }

/-- Note an outcome of the load phase. -/
def noteLoad (b : Batch) (target : Target) (success : Bool) : Batch :=
  { b with result := { b.result with load := b.result.load.note target success } }

/-- Note an outcome of the unload phase. -/
def noteUnload (b : Batch) (target : Target) (success : Bool) : Batch :=
  { b with result := { b.result with unload := b.result.unload.note target success } }

/-- Note an outcome of the reload phase. -/
def noteReload (b : Batch) (target : Target) (success : Bool) : Batch :=
  { b with result := { b.result with reload := b.result.reload.note target success } }

/-- Note an outcome of the dependency check. -/
def noteCheck (b : Batch) (target : Target) (success : Bool) : Batch :=
  { b with result := { b.result with
      dependencyCheck := b.result.dependencyCheck.note target success } }

/-- Note that a unit is new. -/
def noteFresh (b : Batch) (id : String) : Batch :=
  { b with fresh := b.fresh ++ [id] }

/-! ### Leaving -/

/-- Take a unit out of the table and unload it. The answer names it and tells whether that went
well; there is none for an id that is not tracked. -/
def depart (b : Batch) (id : String) : Batch × Option (Target × Bool) :=
  match b.host.table.unit? id with
  | none => (b, none)
  | some unit =>
    let (gone, result, trace) := unit.unload b.host.env b.host.trace
    let b := { b with
      host := { b.host with table := b.host.table.erase id, trace }
      departed := b.departed ++ [gone] }
    match result with
    | .ok () =>
      (b.tell .info "plugin_manager.unload_plugin.success" [unit.title], some (unit.target, true))
    | .error e =>
      (b.tell .error "plugin_manager.unload_plugin.fail" [unit.title, e.message],
        some (unit.target, false))

/-- Some units with every tracked unit that needs one of them, in the order of the dependency
check. -/
def associated (b : Batch) (selected : List String) (operation : String) : Batch × List String :=
  if selected.isEmpty then (b, [])
  else
    let walk := b.host.graph.walk
    let collected := walk.affected selected
    let extra := collected.filter fun id => !selected.contains id
    let debug := b.host.settings.debug
    let records := walk.log debug ++ if debug.shouldLog .plugin then
      [pluginLog .debug ("Collected " ++ Text.ofNat collected.length ++ " plugins to " ++ operation ++
        ": selected " ++ ", ".intercalate selected ++ ", affected " ++ ", ".intercalate extra)]
    else []
    let b := { b with host := b.host.write records }
    if extra.isEmpty then (b, collected)
    else (b.tell .info "plugin_manager.collect_affected"
      [Text.ofNat extra.length, operation, ", ".intercalate extra], collected)

/-! ### Prune -/

/-- A unit goes because it was chosen, or needs one that was. -/
def pruneOne (b : Batch) (id : String) : Batch :=
  match b.depart id with
  | (b, some (target, success)) => b.noteUnload target success
  | (b, none) => b

/-- The units a condition selects go, and everything that needs them; dependents go first. -/
def prune (condition : PluginUnit → Bool) (b : Batch) : Batch :=
  let (b, collected) := b.associated (b.host.select condition) "unload"
  collected.reverse.foldl pruneOne b

/-! ### Discover -/

/-- End the life of a unit that was never tracked. -/
def discard (b : Batch) (unit : PluginUnit) : Batch :=
  let (unit, result, trace) := unit.unload b.host.env b.host.trace
  let host := { b.host with trace }
  let host := match result with
    | .ok () => host
    | .error e => host.report .error ("Failed to release " ++ unit.title ++ ": " ++ e.message)
  match unit.remove.2 with
  | .ok () => { b with host }
  | .error e => { b with host := host.report .error e.message }

/-- Load a file that is not tracked yet. A file whose id is taken leaves nothing behind. -/
def discoverOne (b : Batch) (path : Path) : Batch :=
  if b.host.table.containsPath path then b
  else
    match (PluginUnit.ofPath path).load b.host.env b.host.trace with
    | (_, .error e, trace) =>
      ({ b with host := { b.host with trace } }.tell .error "plugin_manager.load_plugin.fail"
        [path.text, e.message]).noteLoad (.file path) false
    | (unit, .ok (), trace) =>
      let b := { b with host := { b.host with trace } }
      match b.host.table.pathOf? unit.id with
      | some existing =>
        ((b.tell .error "plugin_manager.load_plugin.duplicate"
          [unit.title, path.text, existing.text]).discard unit).noteLoad (.file path) false
      | none =>
        let b := b.tell .info "plugin_manager.load_plugin.success" [unit.title]
        let b := { b with
          host := { b.host with table := b.host.table.insert unit.id path unit } }
        (b.noteLoad unit.target true).noteFresh unit.id

/-- Load the files that are not tracked yet, in order. -/
def discover (files : List Path) (b : Batch) : Batch :=
  files.foldl discoverOne b

/-! ### Refresh -/

/-- Whether a unit can be loaded again. -/
def reloadable (u : PluginUnit) : Bool :=
  u.state = .loaded || u.state = .ready

/-- Load a tracked unit again. It may come back under another id, if that is free. The answer is the
id it is tracked under then. -/
def reloadUnit (b : Batch) (id : String) (unit : PluginUnit) :
    Batch × PluginUnit × Except PluginError String :=
  let (unit, result, trace) := unit.reload b.host.env b.host.trace
  let b := { b with host := { b.host with table := b.host.table.update id unit, trace } }
  match result with
  | .error e => (b, unit, .error e)
  | .ok () =>
    if unit.id = id then (b, unit, .ok id)
    else
      match b.host.table.pathOf? unit.id with
      | some existing => (b, unit, .error (.duplicateId unit.id unit.path existing))
      | none =>
        ({ b with host := { b.host with table := b.host.table.rename id unit.id } }, unit, .ok unit.id)

/-- Load one unit again, unless it is new anyway; it goes if that fails. -/
def refreshOne (b : Batch) (id : String) : Batch :=
  if b.fresh.contains id then b
  else
    match b.host.table.unit? id with
    | none => b
    | some unit =>
      if !reloadable unit then b
      else
        match b.reloadUnit id unit with
        | (b, unit, .ok newId) =>
          ((b.tell .info "plugin_manager.reload_plugin.success" [unit.title]).noteReload
            unit.target true).noteFresh newId
        | (b, unit, .error e) =>
          (((b.tell .error "plugin_manager.reload_plugin.fail" [unit.title, e.message]).noteReload
            unit.target false).depart id).1

/-- Load the units a condition selects again, and everything that needs them; dependencies come
first. -/
def refresh (condition : PluginUnit → Bool) (b : Batch) : Batch :=
  let selected := (b.host.select fun u => reloadable u && condition u).filter
    fun id => !b.fresh.contains id
  let (b, collected) := b.associated selected "reload"
  collected.foldl refreshOne b

/-! ### Validate -/

/-- Note the result of the dependency check for one unit; it goes if it failed. -/
def validateOne (b : Batch) (checked : String × Except Dependency.Failure Unit) : Batch :=
  match b.host.table.unit? checked.1 with
  | none => b
  | some unit =>
    match checked.2 with
    | .ok () =>
      let b := b.noteCheck unit.target true
      { b with order := b.order ++ [checked.1] }
    | .error e =>
      (((b.tell .warn "plugin_manager.check_plugin_dependencies.item_failed"
        [unit.target.title, e.message]).noteCheck unit.target false).depart checked.1).1

/-- Check what every tracked unit needs. -/
def validate (b : Batch) : Batch :=
  let walk := b.host.graph.walk
  let b := { b with host := b.host.write (walk.log b.host.settings.debug) }
  let b := walk.results.foldl validateOne b
  if b.host.settings.debug.shouldLog .plugin && !b.order.isEmpty then
    let text := b.host.language.message "plugin_manager.check_plugin_dependencies.topo_order" []
    { b with host := b.host.report .debug (text ++ " " ++ ", ".intercalate b.order) }
  else b

/-! ### Notify -/

/-- Submit the tasks for an event of one unit; a refusal is reported. -/
def announce (host : Host) (unit : PluginUnit) (event : Event) : Host :=
  let s := unit.receive event .none host.pool
  let host := Host.write { host with pool := s.pool } s.log
  match s.result with
  | .ok _ => host
  | .error e => host.report .error
      ("Failed to notify " ++ unit.title ++ " of " ++ event.text ++ ": " ++ e.message)

/-- A new unit becomes ready and hears of its loading. -/
def welcome (fresh : List String) (host : Host) (id : String) : Host :=
  if !fresh.contains id then host
  else
    match host.table.unit? id with
    | none => host
    | some unit =>
      if unit.state = .loaded then
        match unit.ready with
        | (_, .error e) => host.report .error e.message
        | (unit, .ok ()) =>
          announce { host with table := host.table.update id unit } unit .pluginLoad
      else announce host unit .pluginLoad

/-- A unit that went hears of it and ends its life. -/
def farewell (acc : Host × List PluginUnit) (unit : PluginUnit) : Host × List PluginUnit :=
  let host := announce acc.1 unit .pluginUnload
  match unit.remove with
  | (unit, .ok ()) => (host, acc.2 ++ [unit])
  | (unit, .error e) => (host.report .error e.message, acc.2 ++ [unit])

/-- New units hear of their loading, then units that went hear of that. -/
def notify (b : Batch) : Batch :=
  let host := b.order.foldl (welcome b.fresh) b.host
  let (host, departed) := b.departed.foldl farewell (host, [])
  { b with host, departed }

/-! ### The whole -/

/-- Export what the running units registered. -/
def exportRegistry (host : Host) : Host :=
  let running := host.table.units.filter (·.state = .ready)
  let merged := (running.foldl (fun m u => m.collect u.registry) MergedRegistry.empty).arrange
    host.language
  { host with exported := merged, exports := host.exports ++ [merged] }

/-- What is reported at the end of a batch. -/
def conclude (b : Batch) : Batch :=
  let host := { b.host with last := some b.result }
  let host := b.result.failures.foldl (fun host (phase, target) =>
    host.report .error ("Plugin " ++ target.title ++ " failed during " ++ phase)) host
  { b with host := host.report .info (b.result.summary host.language host.count) }

/-- What a batch works on; a phase that is not asked for is left out. -/
structure Plan where
  prune : Option (PluginUnit → Bool)
  discover : Option (List Path)
  refresh : Option (PluginUnit → Bool)

/-- A batch that only checks what is tracked. -/
def Plan.none : Plan := ⟨.none, .none, .none⟩

/-- A phase that may be left out. -/
def phase {α : Type} (run : α → Batch → Batch) (what : Option α) (b : Batch) : Batch :=
  match what with
  | some a => run a b
  | .none => b

/-- The phases that change the table. -/
def change (plan : Plan) (b : Batch) : Batch :=
  validate (phase refresh plan.refresh (phase discover plan.discover (phase prune plan.prune b)))

/-- A batch from start to end. -/
def run (plan : Plan) (host : Host) : Batch :=
  let b := (change plan (start host)).notify
  conclude { b with host := exportRegistry b.host }

end Batch

end PluginHost

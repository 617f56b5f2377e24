import PluginHost.Log.Category
import PluginHost.Plugin.Code

/-!
What operations on plugins leave behind: the calls they made to the loader,
and the records they wrote.
-/
namespace PluginHost

/-- Calls of the loader and records, each in order. -/
structure Trace where
  calls : List LoaderCall
  log : List LogRecord

/-- What operations on plugins work with. -/
structure UnitEnv where
  loader : Loader
  files : FileSystem
  /-- How plugin files end. -/
  suffix : String
  language : Language
  debug : DebugOptions

namespace Trace

/-- Nothing happened. -/
def empty : Trace := ⟨[], []⟩

def write (t : Trace) (records : List LogRecord) : Trace :=
  { t with log := t.log ++ records }

/-- Write a record about plugins. -/
def report (t : Trace) (level : Level) (text : String) : Trace :=
  t.write [pluginLog level text]

/-- Ask the loader for code. -/
def load (t : Trace) (env : UnitEnv) (path : Path) : Except PluginError LoadedCode × Trace :=
  let result := env.loader.load t.calls env.files path
  (result, { t with calls := t.calls ++ [.load path result] })

/-- Give sub-units back to the loader. -/
def unload (t : Trace) (env : UnitEnv) (subUnits : List SubUnit) : Except PluginError Unit × Trace :=
  let result := env.loader.unload t.calls subUnits
  (result, ⟨t.calls ++ [.unload subUnits result], t.log ++ env.loader.unloadLog subUnits⟩)

end Trace

end PluginHost

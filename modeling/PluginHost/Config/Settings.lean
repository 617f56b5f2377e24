import PluginHost.Path
import PluginHost.Log.Category

/-!
The settings of a session, and what they are when nothing else is written.
-/
namespace PluginHost.Config

/-- How the supervised server is run. -/
structure ServerSettings where
  /-- Program and arguments; empty means that there is no server. -/
  command : List String
  directory : Path
  encoding : String
  deriving DecidableEq, Repr

/-- The settings of a session. -/
structure Settings where
  pluginDirectories : List Path
  pluginSuffix : String
  disabledSuffix : String
  poolSize : Nat
  pollInterval : Nat
  language : String
  /-- Debug categories by name, each name once. -/
  debug : List (String × Bool)
  server : ServerSettings
  deriving DecidableEq, Repr

/-- A server that is not started. -/
def ServerSettings.default : ServerSettings := ⟨[], ⟨"server"⟩, "utf8"⟩

namespace Settings

/-- The settings that hold where nothing is written. -/
def default : Settings :=
  { pluginDirectories := [⟨"plugins"⟩]
    pluginSuffix := ".so"
    disabledSuffix := ".disabled"
    poolSize := 4
    pollInterval := 10
    language := "en_us"
    debug := []
    server := .default }

/-- Whether the settings are the default ones. Paths count by the steps they take. -/
def isDefault (s : Settings) : Bool :=
  s.pluginDirectories.map Path.steps == default.pluginDirectories.map Path.steps &&
  s.server.directory.same default.server.directory &&
  { s with
      pluginDirectories := default.pluginDirectories
      server := { s.server with directory := default.server.directory } } == default

/-- The milliseconds between two looks at the queue of tasks, at least one. -/
def pollWait (s : Settings) : Nat :=
  max s.pollInterval 1

/-- The debug categories, and a warning for each name that is none. -/
def debugOptions (s : Settings) : DebugOptions × List LogRecord :=
  DebugOptions.ofTable s.debug

end Settings

end PluginHost.Config

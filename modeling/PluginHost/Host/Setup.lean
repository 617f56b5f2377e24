import PluginHost.Config.Settings
import PluginHost.Host.Basic

/-!
What a host takes from the settings of a session.
-/
namespace PluginHost

/-- The id and version that plugins may depend on. -/
def HostIdentity.current : HostIdentity :=
  ⟨"mcdreforged", ⟨[.number 2, .number 0, .number 0], none, none⟩⟩

/-- The part of the settings that concerns plugins. -/
def HostSettings.ofSettings (s : Config.Settings) : HostSettings :=
  { directories := s.pluginDirectories
    suffix := s.pluginSuffix
    disabledSuffix := s.disabledSuffix
    identity := .current
    debug := s.debugOptions.1 }

end PluginHost

import PluginHost.Config.Sources
import PluginHost.Host.Error

/-!
Settings from a file. A missing file means the default settings; the name of
the file tells its format.
-/
namespace PluginHost.Config

/-- The wording for a text that is no configuration of its format. -/
def Format.refusal (format : Format) : String :=
  "Failed to deserialize from " ++ String.ofList (format.name.toList.map Char.toUpper)

/-- The settings in a file, and what is reported on the way. -/
def load (files : FileSystem) (path : Path) : Except HostError Settings × List LogRecord :=
  if !files.present path then
    (.ok .default,
      [⟨.warn, "", "Config file " ++ path.text ++ " not found, using default configuration"⟩])
  else
    match Format.ofPath? path with
    | none => (.error (.config path "Unknown or unsupported config format"), [])
    | some format =>
      match files.readText path with
      | .error e => (.error (.file e "read_config" path), [])
      | .ok text =>
        match Settings.ofText? format text with
        | some settings => (.ok settings, [])
        | none => (.error (.config path format.refusal), [])

end PluginHost.Config

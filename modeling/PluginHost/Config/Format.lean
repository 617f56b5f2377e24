import PluginHost.Path

/-!
The formats a configuration can be written in, and how a file's name tells
which one it is.
-/
namespace PluginHost.Config

/-- The formats of configuration files. -/
inductive Format where
  | json
  | yaml
  | toml
  deriving DecidableEq, Repr

/-- The name of a format, which is also its usual extension. -/
def Format.name : Format → String
  | .json => "json"
  | .yaml => "yaml"
  | .toml => "toml"

/-- The format that goes with the extension of a file, in any case. -/
def Format.ofPath? (path : Path) : Option Format :=
  match path.extension?.map fun e => String.ofList (e.toList.map Char.toLower) with
  | some "json" => some .json
  | some "yaml" => some .yaml
  | some "yml" => some .yaml
  | some "toml" => some .toml
  | _ => none

end PluginHost.Config

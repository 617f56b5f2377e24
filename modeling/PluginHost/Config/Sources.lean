import PluginHost.Config.Format
import PluginHost.Config.View
import PluginHost.Json.Value
import PluginHost.Toml.Document
import PluginHost.Yaml.Node

/-!
How the written values of each format are seen, and settings read from a text
of a format.
-/
namespace PluginHost.Config

/-- The text of a string as it is written in JSON. -/
def jsonText? (raw : List Char) : Option String :=
  (Json.unescape raw).map String.ofList

/-- JSON: every value is what it is written as. -/
def jsonView : View Json.Draft where
  text?
    | .text raw => jsonText? raw
    | _ => none
  bool?
    | .bool b => some b
    | _ => none
  natural?
    | .number literal => Text.digits? literal
    | _ => none
  list?
    | .list items => some items
    | _ => none
  record?
    | .object members => members.mapM fun m => (jsonText? m.1).map (·, m.2)
    | _ => none
  positional := .counted

/-- TOML: every value is what it is written as; a moment is a record whose only field has no name
of any setting. -/
def tomlView : View Toml.Value where
  text?
    | .text s => some s
    | _ => none
  bool?
    | .bool b => some b
    | _ => none
  natural?
    | .integer i => i.toNat?
    | _ => none
  list?
    | .list items => some items
    | .tables elements => some (elements.reverse.map (.table .header))
    | _ => none
  record?
    | .table _ members => some members
    | .moment => some [("moment", .text "")]
    | _ => none
  positional := .uncounted

/-- The tag of truth values. -/
def yamlBoolTag : String := "tag:yaml.org,2002:bool"

/-- The tag of integers. -/
def yamlIntTag : String := "tag:yaml.org,2002:int"

/-- Whether a scalar may be read as something else than text: it is plain, or it is a literal block
with the right tag. -/
def yamlIsTyped (style : Yaml.Style) (tag expected : String) : Bool :=
  style == .plain || (style == .literal && tag == expected)

/-- YAML: every scalar is a text, and some are numbers or truth values besides; a plain scalar
without characters is also a list and a record without members. -/
def yamlView (d : Yaml.Document) : View Yaml.Node where
  text? x :=
    match d.resolve x with
    | .scalar _ _ s => some s
    | _ => none
  bool? x :=
    match d.resolve x with
    | .scalar style tag s => if yamlIsTyped style tag yamlBoolTag then Yaml.bool? s else none
    | _ => none
  natural? x :=
    match d.resolve x with
    | .scalar style tag s => if yamlIsTyped style tag yamlIntTag then Yaml.natural? s else none
    | _ => none
  list? x :=
    match d.resolve x with
    | .sequence items => some items
    | .scalar .plain _ "" => some []
    | _ => none
  record? x :=
    match d.resolve x with
    | .mapping pairs => pairs.mapM fun (key, value) =>
        match d.resolve key with
        | .scalar _ _ name => some (name, value)
        | _ => none
    | .scalar .plain _ "" => some []
    | _ => none
  positional := .refused

/-- The settings a text stands for. -/
def Settings.ofText? (format : Format) (text : String) : Option Settings :=
  match format with
  | .json => (Json.Draft.read? text).bind jsonView.settings?
  | .yaml => (Yaml.read? text).bind fun d => (yamlView d).settings? d.root
  | .toml => (Toml.read? text).bind tomlView.settings?

end PluginHost.Config

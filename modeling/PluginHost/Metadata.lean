import PluginHost.Json.Printer
import PluginHost.Language
import PluginHost.Version.Requirement

/-!
What a plugin says about itself: a JSON object with its id, version, texts
for people and the plugins it needs. Nothing in it is fatal; what is missing
or wrong falls back to a default with a warning.
-/
namespace PluginHost

/-- What is known about a plugin. -/
structure Metadata where
  id : String
  name : String
  description : Option String
  author : List String
  link : Option String
  version : Version
  /-- Needed plugins in ascending order of their ids. -/
  dependencies : List (String × Requirement)
  deriving DecidableEq, Repr, Inhabited

namespace Metadata

/-- The characters of ids: lower-case ASCII letters, ASCII digits and the underscore. -/
def isIdChar (c : Char) : Bool :=
  c.isLower || c.isDigit || c == '_'

/-- The greatest length of an id. -/
def maxIdLength : Nat := 64

/-- Ids are not empty, not too long, and hold id characters only. -/
def isValidId (id : String) : Bool :=
  id != "" && id.length ≤ maxIdLength && id.toList.all isIdChar

/-- The text of the version that stands in for a missing or invalid one. -/
def fallbackVersion : String := "0.0.0"

def textOf? (members : List (String × Json)) (key : String) : Option String :=
  (Json.member? members key).bind Json.text?

/-- The members of the object, and a warning for a value that is no object. -/
def membersOf (data : Option Json) (fallbackId : String) : List (String × Json) × List LogRecord :=
  match data with
  | none => ([], [])
  | some (.object members) => (members, [])
  | some _ => ([], [pluginLog .warn ("Metadata of " ++ fallbackId ++ " is not an object, ignored")])

/-- The id, or the fallback with a warning. -/
def idOf (language : Language) (members : List (String × Json)) (fallbackId : String) :
    String × List LogRecord :=
  match textOf? members "id" with
  | some id =>
    if isValidId id then (id, [])
    else (fallbackId, [pluginLog .warn
      (language.message "metadata.id_invalid" [id, fallbackId, fallbackId])])
  | none => (fallbackId, [pluginLog .warn
      (language.message "metadata.id_missing" [fallbackId, fallbackId])])

/-- The version, or three zeros with a warning. -/
def versionOf (language : Language) (members : List (String × Json)) (id : String) :
    Version × List LogRecord :=
  match textOf? members "version" with
  | some raw =>
    match Version.parse false raw with
    | .ok v => (v, [])
    | .error e => (Version.zero, [pluginLog .warn
        (language.message "metadata.version_invalid" [raw, id, e.message, fallbackVersion])])
  | none => (Version.zero, [pluginLog .warn
      (language.message "metadata.version_missing" [id, fallbackVersion])])

/-- One author as a text, or a list of which the texts count. -/
def authorOf (members : List (String × Json)) : List String :=
  match Json.member? members "author" with
  | some (.text author) => [author]
  | some (.list items) => items.filterMap Json.text?
  | _ => []

/-- The requirement in a value, or why there is none. -/
def requirementOf (raw : Json) : Except String Requirement :=
  match raw with
  | .text text => (Requirement.parse text).mapError VersionError.message
  | _ => .error "requirement is not a string"

/-- The entries that state a requirement, and a warning for each other one. -/
def dependenciesOf (language : Language) (members : List (String × Json)) (id : String) :
    List (String × Requirement) × List LogRecord :=
  match Json.member? members "dependencies" with
  | some (.object entries) =>
    (entries.filterMap fun e => (requirementOf e.2).toOption.map (e.1, ·),
     entries.filterMap fun e =>
      match requirementOf e.2 with
      | .ok _ => none
      | .error why => some (pluginLog .warn
          (language.message "metadata.dependency_invalid" [e.1, e.2.render, id, why])))
  | _ => ([], [])

/-- Metadata from what a plugin reports, with the warnings in the order they arise. -/
def extract (language : Language) (data : Option Json) (fallbackId : String) :
    Metadata × List LogRecord :=
  let (members, notObject) := membersOf data fallbackId
  let (id, idLog) := idOf language members fallbackId
  let (version, versionLog) := versionOf language members id
  let (dependencies, dependencyLog) := dependenciesOf language members id
  ({ id
     name := (textOf? members "name").getD id
     description := textOf? members "description"
     author := authorOf members
     link := textOf? members "link"
     version
     dependencies },
   notObject ++ idLog ++ versionLog ++ dependencyLog)

/-- The requirement on a plugin; the first one stated counts. -/
def requirement? (m : Metadata) (id : String) : Option Requirement :=
  m.dependencies.lookup id

/-- The plugin with its version, as shown to people. -/
def title (m : Metadata) : String :=
  m.id ++ "@" ++ m.version.text

end Metadata

end PluginHost

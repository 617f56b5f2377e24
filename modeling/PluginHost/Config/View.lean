import PluginHost.Config.Settings
import PluginHost.Text.Digits

/-!
Settings from a written document. What a document of some format holds is
seen through a view: it tells for a written value what it can be read as. The
settings and the server settings are written as a record of named fields or,
where the format allows it, as a list of fields in their order; fields that
are not written keep their defaults, unknown names are skipped, and no field
is written twice.
-/
namespace PluginHost.Config

/-- Whether fields may be written without their names. -/
inductive Positional where
  | refused
  /-- A list holds no more values than there are fields. -/
  | counted
  /-- A list may hold further values. -/
  | uncounted
  deriving DecidableEq, Repr

/-- What a written value can be read as. -/
structure View (α : Type) where
  text? : α → Option String
  bool? : α → Option Bool
  natural? : α → Option Nat
  list? : α → Option (List α)
  record? : α → Option (List (String × α))
  positional : Positional

namespace View

variable {α : Type} (v : View α)

/-- The written fields among those with the given names. -/
def fields? (names : List String) (x : α) : Option (List (String × α)) :=
  match v.record? x with
  | some members =>
    let known := members.filter fun m => names.contains m.1
    if (known.map Prod.fst).Nodup then some known else none
  | none =>
    match v.positional, v.list? x with
    | .counted, some items => if names.length < items.length then none else some (names.zip items)
    | .uncounted, some items => some (names.zip items)
    | _, _ => none

/-- The value of a field, or its default if the field is not written. -/
def field {β : Type} (fields : List (String × α)) (name : String) (read : α → Option β)
    (default : β) : Option β :=
  match fields.lookup name with
  | none => some default
  | some x => read x

def texts? (x : α) : Option (List String) := do
  (← v.list? x).mapM v.text?

def path? (x : α) : Option Path :=
  (v.text? x).map Path.mk

def paths? (x : α) : Option (List Path) :=
  (v.texts? x).map (·.map Path.mk)

/-- A number that fits a machine word. -/
def word? (x : α) : Option Nat :=
  (v.natural? x).filter (· < Text.wordBound)

/-- Switches by name; the last one of a name counts. -/
def switches? (x : α) : Option (List (String × Bool)) := do
  let members ← (← v.record? x).mapM fun m => (v.bool? m.2).map (m.1, ·)
  return members.foldl (fun kept m => kept.filter (·.1 != m.1) ++ [m]) []

def server? (x : α) : Option ServerSettings := do
  let fields ← v.fields? ["command", "working_directory", "encoding"] x
  let default := ServerSettings.default
  return {
    command := ← field fields "command" v.texts? default.command
    directory := ← field fields "working_directory" v.path? default.directory
    encoding := ← field fields "encoding" v.text? default.encoding }

def settings? (x : α) : Option Settings := do
  let fields ← v.fields? ["plugin_directories", "plugin_suffix", "disabled_suffix",
    "worker_pool_size", "worker_poll_interval_ms", "language", "debug", "server"] x
  let default := Settings.default
  return {
    pluginDirectories := ← field fields "plugin_directories" v.paths? default.pluginDirectories
    pluginSuffix := ← field fields "plugin_suffix" v.text? default.pluginSuffix
    disabledSuffix := ← field fields "disabled_suffix" v.text? default.disabledSuffix
    poolSize := ← field fields "worker_pool_size" v.word? default.poolSize
    pollInterval := ← field fields "worker_poll_interval_ms" v.word? default.pollInterval
    language := ← field fields "language" v.text? default.language
    debug := ← field fields "debug" v.switches? default.debug
    server := ← field fields "server" v.server? default.server }

end View

end PluginHost.Config

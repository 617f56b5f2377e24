import PluginHost.Text.Template
import PluginHost.Json.Value
import PluginHost.Log.Record

/-!
Languages: tables from message keys to templates. English is built in; every
other language is a table of texts in JSON. A key without a template stands
for itself.
-/
namespace PluginHost

/-- The messages of one language. -/
structure Language where
  code : String
  entries : List (String × String)
  deriving Inhabited

namespace Language

/-- The messages in English. -/
def englishEntries : List (String × String) :=
  [("plugin_manager.load_plugin.success",
    "Plugin \x7b\x7d loaded"),
   ("plugin_manager.load_plugin.fail",
    "Failed to load plugin from \x7b\x7d: \x7b\x7d"),
   ("plugin_manager.load_plugin.duplicate",
    "Plugin \x7b\x7d from \x7b\x7d has the same id as the already loaded plugin from \x7b\x7d, ignored"),
   ("plugin_manager.unload_plugin.success",
    "Plugin \x7b\x7d unloaded"),
   ("plugin_manager.unload_plugin.fail",
    "Failed to unload plugin \x7b\x7d: \x7b\x7d"),
   ("plugin_manager.reload_plugin.success",
    "Plugin \x7b\x7d reloaded"),
   ("plugin_manager.reload_plugin.fail",
    "Failed to reload plugin \x7b\x7d: \x7b\x7d"),
   ("plugin_manager.collect_affected",
    "Collected \x7b\x7d extra plugins to \x7b\x7d due to dependency associations: \x7b\x7d"),
   ("plugin_manager.check_plugin_dependencies.item_failed",
    "Unloading plugin \x7b\x7d due to \x7b\x7d"),
   ("plugin_manager.check_plugin_dependencies.topo_order",
    "Plugin dependency topology order:"),
   ("plugin_manager.plugin_directory_not_found",
    "Plugin directory \"\x7b\x7d\" not found"),
   ("plugin_manager.enable_plugin.not_found",
    "Disabled plugin file \x7b\x7d not found"),
   ("plugin_manager.disable_plugin.not_found",
    "Plugin file \x7b\x7d not found"),
   ("plugin_manager.rename_failed",
    "Failed to rename \x7b\x7d to \x7b\x7d: \x7b\x7d"),
   ("plugin_operation_result.info_loaded_succeeded",
    "Loaded \x7b\x7d plugins"),
   ("plugin_operation_result.info_unloaded_succeeded",
    "Unloaded \x7b\x7d plugins"),
   ("plugin_operation_result.info_reloaded_succeeded",
    "Reloaded \x7b\x7d plugins"),
   ("plugin_operation_result.info_loaded_failed",
    "Failed to load \x7b\x7d plugins"),
   ("plugin_operation_result.info_unloaded_failed",
    "Failed to unload \x7b\x7d plugins"),
   ("plugin_operation_result.info_reloaded_failed",
    "Failed to reload \x7b\x7d plugins"),
   ("plugin_operation_result.info_dependency_check_failed",
    "\x7b\x7d plugins failed dependency check"),
   ("plugin_operation_result.info_none",
    "No plugin operation has occurred"),
   ("plugin_operation_result.info_plugin_amount",
    "\x7b\x7d plugins loaded in total"),
   ("plugin_registry.mcdr_help_message",
    "MCDReforged control command"),
   ("metadata.id_invalid",
    "Plugin id \"\x7b\x7d\" of \x7b\x7d is invalid, using fallback id \x7b\x7d"),
   ("metadata.id_missing",
    "\x7b\x7d does not specify a plugin id, using fallback id \x7b\x7d"),
   ("metadata.version_invalid",
    "Version \"\x7b\x7d\" of \x7b\x7d is invalid (\x7b\x7d), using fallback version \x7b\x7d"),
   ("metadata.version_missing",
    "\x7b\x7d does not specify a version, using fallback version \x7b\x7d"),
   ("metadata.dependency_invalid",
    "Dependency \"\x7b\x7d: \x7b\x7d\" of \x7b\x7d is invalid (\x7b\x7d), ignored"),
   ("console.unknown_command",
    "Unknown command: \x7b\x7d"),
   ("console.plugin_not_found",
    "Plugin \x7b\x7d not found"),
   ("console.plugin_list",
    "\x7b\x7d plugins: \x7b\x7d"),
   ("server.started",
    "Server started with PID \x7b\x7d"),
   ("server.stopped",
    "Server stopped with return code \x7b\x7d"),
   ("server.not_configured",
    "No server command configured, running without a server")]

def englishCode : String := "en_us"

/-- The built-in language. -/
def english : Language := ⟨englishCode, englishEntries⟩

/-- The language with a code, and a warning when it is not the built-in one that takes its place. -/
def ofCode (code : String) : Language × List LogRecord :=
  (english, if code = englishCode then [] else
    [⟨.warn, "", "Language " ++ code ++ " is not available, falling back to " ++ englishCode⟩])

/-- An entry of a table: both its key and its value are texts. -/
def texts? : List Char × Json.Draft → Option (String × String)
  | (key, .text value) => do
    return (String.ofList (← Json.unescape key), String.ofList (← Json.unescape value))
  | _ => none

/-- The language whose table is a JSON object of texts; of several entries with one key the last one
counts. -/
def ofJson? (code : String) (data : String) : Option Language :=
  match Json.Draft.read? data with
  | some (.object members) => do return ⟨code, Json.ordered (← members.mapM texts?)⟩
  | _ => none

/-- Whether there is a template for a key. -/
def contains (language : Language) (key : String) : Bool :=
  (language.entries.lookup key).isSome

/-- The message for a key with its arguments filled in; an unknown key is its own message. -/
def message (language : Language) (key : String) (args : List String) : String :=
  match language.entries.lookup key with
  | some template => Text.Template.format template args
  | none => key

end Language

end PluginHost

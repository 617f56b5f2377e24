import PluginHost.Language
import PluginHost.Path

/-!
Results of batches: what each phase did to which plugin, and the one line an
operator reads about it.
-/
namespace PluginHost

/-- What an operation was about: a plugin with an identity, or a file that never became one. -/
inductive Target where
  | plugin (id version : String) (path : Path)
  | file (path : Path)
  deriving DecidableEq, Repr

namespace Target

/-- The id, if there is one. -/
def id? : Target → Option String
  | .plugin id _ _ => some id
  | .file _ => none

/-- The file behind a target. -/
def path : Target → Path
  | .plugin _ _ path => path
  | .file path => path

/-- A target as shown to people. -/
def title : Target → String
  | .plugin id version _ => id ++ "@" ++ version
  | .file path => path.shortName

end Target

/-- What one phase of a batch achieved and what it did not. -/
structure PhaseResult where
  succeeded : List Target
  failed : List Target
  deriving DecidableEq, Repr, Inhabited

namespace PhaseResult

/-- Nothing was tried. -/
def empty : PhaseResult := ⟨[], []⟩

/-- Note an outcome. -/
def note (r : PhaseResult) (target : Target) (success : Bool) : PhaseResult :=
  if success then { r with succeeded := r.succeeded ++ [target] }
  else { r with failed := r.failed ++ [target] }

/-- Whether nothing was tried. -/
def isEmpty (r : PhaseResult) : Bool :=
  r.succeeded.isEmpty && r.failed.isEmpty

end PhaseResult

/-- The results of the four phases of a batch. -/
structure BatchResult where
  load : PhaseResult
  unload : PhaseResult
  reload : PhaseResult
  dependencyCheck : PhaseResult
  deriving DecidableEq, Repr, Inhabited

namespace BatchResult

/-- No phase tried anything. -/
def empty : BatchResult := ⟨.empty, .empty, .empty, .empty⟩

/-- Nothing came, went or was loaded again, and nothing failed its dependency check. -/
def isNoop (r : BatchResult) : Bool :=
  r.load.isEmpty && r.unload.isEmpty && r.reload.isEmpty && r.dependencyCheck.failed.isEmpty

/-- The failures with their phases. -/
def failures (r : BatchResult) : List (String × Target) :=
  r.load.failed.map ("load", ·) ++ r.unload.failed.map ("unload", ·) ++
    r.reload.failed.map ("reload", ·) ++ r.dependencyCheck.failed.map ("dependency check", ·)

/-- The lists the summary counts, with the keys of their messages, in the order it names them. -/
def sections (r : BatchResult) : List (List Target × String) :=
  [(r.load.succeeded, "plugin_operation_result.info_loaded_succeeded"),
   (r.unload.succeeded, "plugin_operation_result.info_unloaded_succeeded"),
   (r.reload.succeeded, "plugin_operation_result.info_reloaded_succeeded"),
   (r.load.failed, "plugin_operation_result.info_loaded_failed"),
   (r.unload.failed, "plugin_operation_result.info_unloaded_failed"),
   (r.reload.failed, "plugin_operation_result.info_reloaded_failed"),
   (r.dependencyCheck.failed, "plugin_operation_result.info_dependency_check_failed")]

/-- The line for the operator: every list that is not empty by its length, and how many plugins
there are. -/
def summary (r : BatchResult) (language : Language) (count : Nat) : String :=
  let told := r.sections.filterMap fun (targets, key) =>
    if targets.isEmpty then none else some (language.message key [Text.ofNat targets.length])
  let told := if told.isEmpty then [language.message "plugin_operation_result.info_none" []] else told
  "; ".intercalate
    (told ++ [language.message "plugin_operation_result.info_plugin_amount" [Text.ofNat count]])

end BatchResult

end PluginHost

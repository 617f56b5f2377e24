import PluginHost.Log.Record

/-!
Debug records fall into categories that an operator switches on one by one,
or all together with the category `all`.
-/
namespace PluginHost

/-- The categories of debug records. -/
inductive Category where
  | all
  | plugin
  | executor
  | process
  deriving DecidableEq, Repr

namespace Category

def every : List Category := [.all, .plugin, .executor, .process]

def name : Category → String
  | .all => "all"
  | .plugin => "plugin"
  | .executor => "executor"
  | .process => "process"

/-- The text with its ASCII letters in lower case. -/
def lower (text : String) : String :=
  String.ofList (text.toList.map Char.toLower)

/-- The category with a name, whatever the case of its ASCII letters. -/
def ofName? (text : String) : Option Category :=
  every.find? fun c => c.name = lower text

/-- The wording for a name no category has. -/
def unknownMessage (text : String) : String :=
  "Unknown debug option '" ++ lower text ++ "'"

end Category

/-- The categories that are switched on. -/
structure DebugOptions where
  enabled : List Category
  deriving DecidableEq, Repr, Inhabited

namespace DebugOptions

/-- Nothing is switched on. -/
def none : DebugOptions := ⟨[]⟩

/-- Switch a category on. -/
def enable (options : DebugOptions) (c : Category) : DebugOptions :=
  ⟨if c ∈ options.enabled then options.enabled else options.enabled ++ [c]⟩

/-- Switch a category off. -/
def disable (options : DebugOptions) (c : Category) : DebugOptions :=
  ⟨options.enabled.filter (· != c)⟩

/-- Whether records of a category are written; `all` switches every category on. -/
def shouldLog (options : DebugOptions) (c : Category) : Bool :=
  options.enabled.contains .all || options.enabled.contains c

/-- The categories a table of names switches on, and a warning for each name no category has. -/
def ofTable (table : List (String × Bool)) : DebugOptions × List LogRecord :=
  table.foldl (fun (options, log) (name, on) =>
    match Category.ofName? name with
    | some c => (if on then options.enable c else options, log)
    | .none => (options, log ++ [⟨.warn, "", Category.unknownMessage name ++ ", ignored"⟩])) (none, [])

end DebugOptions

end PluginHost

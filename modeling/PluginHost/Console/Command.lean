import PluginHost.Plugin.Registry
import PluginHost.Text.Blank

/-!
Console lines. A line whose first word is the host's own is a command, made
of the words that follow; every other line is text for the server.
-/
namespace PluginHost.Console

/-- What an operator can ask for. -/
inductive Command where
  | help
  | status
  | stop
  | listPlugins
  /-- Load changed plugin files again, load new ones and unload removed ones. -/
  | refreshChanged
  | refreshAll
  | loadPlugin (file : String)
  | unloadPlugin (id : String)
  | reloadPlugin (id : String)
  | enablePlugin (file : String)
  | disablePlugin (file : String)
  | unknown (words : String)
  deriving DecidableEq, Repr

/-- A line of the console. -/
inductive Input where
  | command (command : Command)
  | text (line : String)
  deriving DecidableEq, Repr

/-- The command some words make. Words outside the known forms are kept as they are, with single
spaces between them. -/
def Command.ofWords : List String → Command
  | [] | ["help"] => .help
  | ["status"] => .status
  | ["stop"] => .stop
  | ["plugin", "list"] | ["plg", "list"] => .listPlugins
  | ["reload", "plugin"] | ["r", "plg"] => .refreshChanged
  | ["reload", "all"] | ["r", "all"] => .refreshAll
  | ["plugin", "load", file] | ["plg", "load", file] => .loadPlugin file
  | ["plugin", "unload", id] | ["plg", "unload", id] => .unloadPlugin id
  | ["plugin", "reload", id] | ["plg", "reload", id] => .reloadPlugin id
  | ["plugin", "enable", file] | ["plg", "enable", file] => .enablePlugin file
  | ["plugin", "disable", file] | ["plg", "disable", file] => .disablePlugin file
  | words => .unknown (" ".intercalate words)

/-- The line without the line ends it ends in. -/
def withoutLineEnd (line : String) : String :=
  String.ofList (Text.trimEnd (fun c => c = '\r' || c = '\n') line.toList)

/-- Read a line. -/
def Input.ofLine (line : String) : Input :=
  match Text.wordsOf line with
  | [] => .text (withoutLineEnd line)
  | first :: words =>
    if first = MergedRegistry.hostCommand then .command (.ofWords words)
    else .text (withoutLineEnd line)

example : Input.ofLine "  !!MCDR \t plg  load a.so\n" = .command (.loadPlugin "a.so") := by
  decide +kernel
example : Input.ofLine "!!MCDR plugin unload" = .command (.unknown "plugin unload") := by
  decide +kernel
example : Input.ofLine " say hello \r\n" = .text " say hello " := by decide +kernel

end PluginHost.Console

import PluginHost.Outside.Shell.Program
import PluginHost.Session.Arguments
import PluginHost.Session.Basic

/-!
A run of the command line from its arguments to its exit code.
-/
namespace PluginHost.CommandLine

/-- What a run leaves behind. -/
structure Result where
  code : Nat
  printed : String
  files : FileSystem

/-- The name and version of the program. -/
def versionLine : String := "mcdr 0.1.0"

/-- The lines of the help text. -/
def helpLines : List String :=
  ["MCDR server supervisor front end", "",
   "Usage: mcdr [OPTIONS]", "",
   "Options:",
   "      --config <CONFIG>  Configuration file (json, yaml or toml) [default: " ++
     Request.defaultConfig ++ "]",
   "      --ping             Print \"pong\" and exit",
   "      --no-server        Manage plugins only, do not start the server process",
   "  -h, --help             Print help",
   "  -V, --version          Print version"]

/-- Exit codes. -/
def succeeded : Nat := 0
def failed : Nat := 1
def misused : Nat := 2

/-- What happens before any line of the console is read: a session starts, or the run is over. The
programs a server can be are those of the shell. -/
def start (arguments : List String) (link : ByteArray → Library.Image) (files : FileSystem) :
    Session ⊕ Result :=
  let ended (code : Nat) (lines : List String) : Session ⊕ Result :=
    .inr ⟨code, String.join (lines.map (· ++ "\n")), files⟩
  match Request.ofArguments? arguments with
  | none => ended misused []
  | some .help => ended succeeded helpLines
  | some .version => ended succeeded [versionLine]
  | some .ping => ended succeeded ["pong"]
  | some (.run config withServer) =>
    match (Config.load files ⟨config⟩).1 with
    | .ok settings => .inl (Session.start settings withServer Shell.programs link files)
    | .error _ => ended failed []

/-- A run on a console with some lines, which may stay open behind them. -/
def run (arguments : List String) (link : ByteArray → Library.Image) (files : FileSystem)
    (console : List String) (staysOpen : Bool) : Result :=
  match start arguments link files with
  | .inr result => result
  | .inl session =>
    let session := session.run console staysOpen
    ⟨succeeded, session.printed, session.host.files⟩

end PluginHost.CommandLine

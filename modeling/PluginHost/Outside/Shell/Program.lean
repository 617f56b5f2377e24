import PluginHost.Outside.Shell.Run
import PluginHost.Session.Server
import PluginHost.Text.Lines

/-!
The stand-in for the programs of the system: a shell that runs scripts, and the
small tools scripts are made of. None of it is the host's. A session takes its
programs from outside, and only the command line hands these to it.
-/
namespace PluginHost.Shell

/-- The steps a program may take. -/
def stepLimit : Nat := 100000

/-- How many microseconds after the end of a program is listened to what it started. -/
def afterglow : Nat := 5000

/-- What comes of the program of a name. -/
def report (name : String) (launch : Launch) (sent : List String) (closed : Bool) : Report :=
  let input := Octets.ofText (String.join (sent.map (· ++ "\n")))
  let name := Octets.ofText name
  let (stop, state) := outcome stepLimit name (launch.words.map Octets.ofText)
    (.start name input closed launch.files launch.directory)
  let printed := state.printed.textUntil (state.clock + afterglow)
  let lines := Text.linesOf (Octets.toBytes printed)
  match stop with
  | .exited code => ⟨lines, true, some code⟩
  | .waiting => ⟨lines, false, none⟩
  | _ => ⟨lines, true, none⟩

/-- The shell and the tools. -/
def programs : Programs where
  find? name := if isProgram name then some ⟨report name⟩ else none

end PluginHost.Shell

import PluginHost.Config.Load
import PluginHost.Console.Execute
import PluginHost.Host.Setup
import PluginHost.Plugin.Library
import PluginHost.Session.Server

/-!
A session: a host, the server it supervises, and the console. The console is
quicker than the server: all its lines are read before the server answers to
any of them.
-/
namespace PluginHost

/-- A session under way. -/
structure Session where
  host : Host
  /-- The server that runs. -/
  server : Option Server
  /-- What was printed so far. -/
  printed : String

namespace Session

def print (s : Session) (line : String) : Session :=
  { s with printed := s.printed ++ line ++ "\n" }

/-- Tell plugins of an event and let them hear of it. -/
def announce (s : Session) (event : Event) (payload : Payload) : Session :=
  { s with host := (s.host.dispatch event payload).1.settle }

/-- Start the server if the settings name one and it is wanted. A server that does not start is
reported, and the session goes on without. -/
def startServer (s : Session) (programs : Programs) (settings : Config.ServerSettings)
    (wanted : Bool) : Session :=
  if !wanted || settings.command.isEmpty then
    let record : LogRecord := ⟨.info, "", s.host.language.message "server.not_configured" []⟩
    { s with host := s.host.write [record] }
  else
    match Server.start? programs s.host.files settings with
    | some server => { s with server := some server }.announce .serverStartup .none
    | none => s

/-- Start a session: a host is set up, all plugins are loaded, and the server is started. -/
def start (settings : Config.Settings) (withServer : Bool) (programs : Programs)
    (link : ByteArray → Library.Image) (files : FileSystem) : Session :=
  let (language, records) := Language.ofCode settings.language
  let pool := Pool.create settings.poolSize .spawn settings.debugOptions.1
  let host := Host.create (.ofSettings settings) language (Library.loader link) files pool
  let host := (host.write records).refreshAll.1.settle
  startServer ⟨host, none, ""⟩ programs settings.server withServer

/-- Send a line to the server if there is one. -/
def send (s : Session) (line : String) : Session :=
  { s with server := s.server.map fun server => server.send line }

/-- Read a line of the console. The answer tells whether the session goes on. -/
def read (s : Session) (line : String) : Session × Bool :=
  match Console.Input.ofLine line with
  | .command command =>
    let effect := Console.execute s.host command
    ({ s with host := effect.host.settle, printed := s.printed ++ effect.output }, !effect.stop)
  | .text text =>
    ((s.send text).announce .userInfo (.info text none), true)

/-- Read lines until one of them ends the session. The answer tells whether it goes on. -/
def readAll (s : Session) : List String → Session × Bool
  | [] => (s, true)
  | line :: rest =>
    match s.read line with
    | (s, true) => s.readAll rest
    | (s, false) => (s, false)

/-- Show a line of the server and tell plugins of it. -/
def hear (s : Session) (line : String) : Session :=
  (s.print line).announce .generalInfo (.info line none)

/-- Wait for the server to end, after its input was closed or while it stays open. -/
def awaitServer (s : Session) (closed : Bool) : Session :=
  match s.server with
  | none => s
  | some server =>
    let report := server.report closed
    let s := report.lines.foldl hear { s with server := none }
    if report.ended then s.announce .serverStop (.serverStop (report.code.map Int.ofNat)) else s

/-- The line that asks a server to stop. -/
def stopLine : String := "stop"

/-- End a session: the server is asked to stop and waited for, and all plugins are unloaded. -/
def finish (s : Session) : Session :=
  let s := ((s.send stopLine).awaitServer true).announce .hostStop .none
  { s with host := s.host.unloadAll.1.settle.shutdownPool.1 }

/-- A whole session. If the console stays open after its last line, the session ends with the
server. -/
def run (s : Session) (console : List String) (staysOpen : Bool) : Session :=
  match s.readAll console with
  | (s, goesOn) => (if goesOn && staysOpen then s.awaitServer false else s).finish

end Session

end PluginHost

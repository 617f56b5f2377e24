import PluginHost.Config.Settings
import PluginHost.FileSystem

/-!
The supervised server: a program that is started in a directory, reads the
lines it is sent, and prints lines until it ends. The programs are no part of
the host. Which ones there are, and what they do, is given from outside.
-/
namespace PluginHost

/-- What a program is started with. -/
structure Launch where
  words : List String
  files : FileSystem
  directory : Path

/-- What came of a program: the lines it printed, and how it ended if it did. -/
structure Report where
  lines : List String
  /-- Whether it ended. -/
  ended : Bool
  /-- Its code, none if a signal ended it. -/
  code : Option Nat

/-- An outside program. -/
structure Program where
  /-- What comes of it after it was sent some lines, behind which its input is closed or stays
  open. -/
  report : (launch : Launch) → (sent : List String) → (closed : Bool) → Report

/-- The outside programs. -/
structure Programs where
  /-- The program of a name. -/
  find? : String → Option Program

/-- A server that was started. -/
structure Server where
  program : Program
  launch : Launch
  /-- The lines it was sent so far. -/
  sent : List String

namespace Server

/-- Whether a word can be handed to a program. -/
def isWord (text : String) : Bool := !text.toList.contains '\x00'

/-- Start a server, if there is such a program and its directory. -/
def start? (programs : Programs) (files : FileSystem) (settings : Config.ServerSettings) :
    Option Server :=
  match settings.command with
  | name :: words =>
    if files.isDirectory settings.directory && settings.command.all isWord then
      (programs.find? name).map fun program => ⟨program, ⟨words, files, settings.directory⟩, []⟩
    else none
  | [] => none

def send (s : Server) (line : String) : Server :=
  { s with sent := s.sent ++ [line] }

/-- What came of a server on the lines it was sent, after which its input is closed or stays
open. -/
def report (s : Server) (closed : Bool) : Report :=
  s.program.report s.launch s.sent closed

end Server

end PluginHost

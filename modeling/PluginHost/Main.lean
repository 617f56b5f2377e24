import PluginHost.Session.CommandLine

/-!
The program: it reads the files below the working directory, runs a session
on the lines of the console, shows what is printed as it goes, and puts files
where the session put them. No dynamic library can be linked into it, so every
plugin file is refused.
-/
namespace PluginHost.Main

def pathText (place : Place) : String :=
  "/".intercalate place

/-- All files and directories below a place. -/
partial def survey (place : Place) : IO (List (Place × Entry)) := do
  let mut found := []
  for entry in ← (← IO.currentDir).join (pathText place) |>.readDir do
    let here := place ++ [entry.fileName]
    if ← entry.path.isDir then
      found := (here, Entry.directory) :: (← survey here) ++ found
    else
      found := (here, Entry.file (← IO.FS.readBinFile entry.path)) :: found
  return found

/-- Put files where a session left them. -/
def settleFiles (before after : FileSystem) : IO Unit := do
  for (place, entry) in before.entries do
    match entry with
    | .file _ => if (after.holding? place).isNone then IO.FS.removeFile (pathText place)
    | .directory => pure ()
  for (place, entry) in after.entries do
    match entry with
    | .file content =>
      let unchanged := match before.holding? place with
        | some (.file old) => old.data == content.data
        | _ => false
      if !unchanged then IO.FS.writeBinFile (pathText place) content
    | .directory => pure ()

/-- No file is a library here. -/
def link (_ : ByteArray) : Library.Image :=
  .noLibrary "no dynamic libraries are linked"

/-- Run a session on the console, showing what it prints after each line. -/
partial def converse (stdin stdout : IO.FS.Stream) (session : Session) : IO Session := do
  stdout.putStr session.printed
  stdout.flush
  let line ← stdin.getLine
  if line.isEmpty then return { session with printed := "" }
  match { session with printed := "" }.read (Console.withoutLineEnd line) with
  | (session, true) => converse stdin stdout session
  | (session, false) => return session

/-- Run the program. -/
def run (arguments : List String) : IO UInt32 := do
  let files : FileSystem := ⟨← survey []⟩
  let stdout ← IO.getStdout
  match CommandLine.start arguments link files with
  | .inr result =>
    stdout.putStr result.printed
    return UInt32.ofNat result.code
  | .inl session =>
    let session := (← converse (← IO.getStdin) stdout session).finish
    stdout.putStr session.printed
    settleFiles files session.host.files
    return UInt32.ofNat CommandLine.succeeded

end PluginHost.Main

def main (arguments : List String) : IO UInt32 :=
  PluginHost.Main.run arguments

import PluginHost.Plugin.Code

/-!
Plugins in dynamic libraries. A library hands out its code through one entry
point; what linking a file gives is for the system to say, so the loader is
built over a function that tells it.
-/
namespace PluginHost.Library

/-- What linking a file gives. -/
inductive Image where
  /-- A library whose entry point hands out code. -/
  | code (code : PluginCode)
  /-- A library whose entry point hands out nothing. -/
  | nothing
  /-- A library whose entry point breaks off. -/
  | broken (panic : Panic)
  /-- A library without an entry point. -/
  | noEntry (cause : String)
  /-- No library. -/
  | noLibrary (cause : String)

/-- The linker looks for a name without directories elsewhere than in the working directory. -/
def isSearched (path : Path) : Bool :=
  !path.text.toList.contains '/'

/-- Libraries of the system, which the linker finds by their names. -/
def systemNames : List String :=
  ["libc.so.6", "libm.so.6", "libdl.so.2", "libpthread.so.0", "librt.so.1", "libgcc_s.so.1"]

/-- Open a file as a library. The empty path is the running program; neither that nor a library of
the system has an entry point. -/
def openFile (link : ByteArray → Image) (files : FileSystem) (path : Path) : Image :=
  if path.text = "" ∨ systemNames.contains path.text then .noEntry "undefined symbol"
  else if isSearched path then .noLibrary (path.text ++ ": " ++ FileError.notFound.message)
  else
    match files.read path with
    | .ok content => link content
    | .error e => .noLibrary (path.text ++ ": " ++ e.message)

/-- Load the code of a library. The library itself is the one thing to give back. -/
def load (link : ByteArray → Image) (history : List LoaderCall) (files : FileSystem) (path : Path) :
    Except PluginError LoadedCode :=
  match openFile link files path with
  | .noLibrary cause => .error (.load path ("libloading error: " ++ cause))
  | .noEntry cause => .error (.load path ("missing entry symbol: " ++ cause))
  | .broken panic => .error (.load path ("entry point " ++ (CallbackError.ofPanic panic).message))
  | .nothing => .error (.load path "entry point returned null")
  | .code code => .ok ⟨code, [⟨path.text, (history.filter LoaderCall.loadedCode).length + 1, none⟩]⟩

/-- Libraries are always given back without trouble. -/
def loader (link : ByteArray → Image) : Loader :=
  { load := load link
    unload := fun _ _ => .ok ()
    unloadLog := fun subUnits => subUnits.map fun s =>
      pluginLog .debug ("Released library handle " ++ s.name) }

end PluginHost.Library

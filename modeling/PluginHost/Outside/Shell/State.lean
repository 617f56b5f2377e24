import PluginHost.FileSystem
import PluginHost.Outside.Shell.Command
import PluginHost.Outside.Shell.Octets
import PluginHost.Outside.Shell.Transcript

/-!
A running script: its variables, where its descriptors lead, what it can read
and what it has printed, and the ways in which it stops. All texts are octets,
and all moments are counted in microseconds from the start. Time passes only in
a sleep.
-/
namespace PluginHost.Shell

/-- Where a descriptor for output leads. -/
inductive Sink where
  /-- To who started the script. -/
  | printed
  /-- To the output that a part of the script is run for, the outermost being the first. -/
  | caught (level : Nat)
  /-- To the end of a file. -/
  | file (path : Path)
  /-- To where nobody reads. -/
  | lost
  deriving DecidableEq

/-- What a script was told about how to run. -/
structure Options where
  /-- Stop where a command fails. -/
  exitOnFailure : Bool
  /-- Stop where a parameter has no value. -/
  needsValues : Bool
  /-- Words are not replaced by the names of files. -/
  noFileNames : Bool

/-- A script that runs. -/
structure State where
  /-- What it is called. -/
  title : String
  arguments : List String
  bindings : Variables
  /-- Variables that cannot be set any more. -/
  fixed : List String
  functions : List (String × Command)
  /-- How and at which moment the commands ended that were run beside others, the last one first. -/
  jobs : List (Nat × Nat)
  /-- What is done on a signal or at the exit. -/
  traps : List (String × String)
  /-- The status before what is done now on a signal or at the exit. -/
  trapped : Option Nat
  options : Options
  /-- Variables of the function that runs, with what they held before. -/
  locals : List (String × Option String)
  /-- How many functions run. -/
  depth : Nat
  /-- How many loops run. -/
  loops : Nat
  /-- How many rounds of loops and calls of functions are waited for. -/
  patience : Nat
  /-- Whether a failure is asked for, so that it does not stop the script. -/
  asked : Bool
  status : Nat
  /-- The status of the last commands that were run for their output in the command that runs. -/
  caughtStatus : Option Nat
  /-- What waits to be read. -/
  input : List Char
  /-- Whether nothing comes after that. -/
  closed : Bool
  sinks : List (Nat × Sink)
  /-- The moment it has come to. -/
  clock : Nat
  printed : Transcript
  /-- What parts of the script have printed so far that are run for their output, the innermost
  first. -/
  caught : List Transcript
  files : FileSystem
  directory : Path

/-- Why a script does not go on with the next command. -/
inductive Stop where
  /-- Out of some loops. -/
  | leave (loops : Nat)
  /-- To the next round of a loop, out of those inside it. -/
  | again (loops : Nat)
  /-- Out of a function. -/
  | returned
  | exited (code : Nat)
  | killed (signal : Nat)
  /-- It waits for a line. -/
  | waiting
  /-- It ran for too long. -/
  | endless
  deriving DecidableEq, Repr

/-- A part of a run. What was done before it stops stays done. -/
abbrev Run (α : Type) := ExceptT Stop (StateM State) α

namespace State

def start (title input : String) (closed : Bool) (files : FileSystem) (directory : Path) :
    State where
  title
  arguments := []
  bindings := [("IFS", " \t\n"), ("OPTIND", "1"), ("PS1", "# "), ("PS2", "> "), ("PS4", "+ ")]
  fixed := []
  functions := []
  jobs := []
  traps := []
  trapped := none
  options := ⟨false, false, false⟩
  locals := []
  depth := 0
  loops := 0
  patience := 100000
  asked := false
  status := 0
  caughtStatus := none
  input := input.toList
  closed
  sinks := [(1, .printed), (2, .lost)]
  clock := 0
  printed := .empty
  caught := []
  files
  directory

/-- The number scripts see as that of their own process. -/
def processNumber : String := "1"

/-- How and when a command ended that was run beside others, given the number of its process. -/
def job? (s : State) (process : String) : Option (Nat × Nat) :=
  match Number.natural? process with
  | some (n + 2) => s.jobs.reverse[n]?
  | _ => none

/-- The path of a file name. -/
def path (s : State) (name : String) : Path :=
  s.directory.join (Octets.toText name)

/-- What a file name leads to. -/
def find (s : State) (name : String) : Except FileError Entry :=
  s.files.lookup (s.path name)

/-- What a sink has taken, and a text after it. -/
def pour (s : State) (text : String) : Sink → State
  | .printed => { s with printed := s.printed.add s.clock text }
  | .caught level =>
    { s with caught := s.caught.modify (s.caught.length - 1 - level) (·.add s.clock text) }
  | .file path =>
    match s.files.read path with
    | .ok content =>
      match s.files.write path (content ++ Octets.toBytes text) with
      | .ok files => { s with files }
      | .error _ => s
    | .error _ => s
  | .lost => s

end State

/-- Let time pass up to a moment. -/
def waitUntil (moment : Nat) : Run Unit := modify fun s => { s with clock := max s.clock moment }

/-- End a command with a status. -/
def answer (status : Nat) : Run Unit := modify fun s => { s with status }

/-- Succeed or fail by a condition. -/
def test (holds : Bool) : Run Unit := answer (if holds then 0 else 1)

/-- The code of a script that ends because of a mistake. -/
def mistaken : Nat := 2

/-- Wait for one more round of a loop or call of a function. -/
def tire : Run Unit := do
  let s ← get
  if s.patience = 0 then throw .endless
  set { s with patience := s.patience - 1 }

/-- End the script because of a mistake. -/
def refuse {α : Type} : Run α := throw (.exited mistaken)

/-- Print a text and succeed; without a place to print to, fail. -/
def print (text : String) : Run Unit := modify fun s =>
  match s.sinks.lookup 1 with
  | some sink => { s.pour text sink with status := 0 }
  | none => { s with status := 1 }

/-- Set a variable, unless it cannot be set any more. -/
def assign (name value : String) : Run Unit := do
  if (← get).fixed.contains name then refuse
  modify fun s => { s with bindings := s.bindings.set name value }

/-- Run with an answer to whether failures are asked for. -/
def withAsked (asked : Bool) (body : Run Unit) : Run Unit := do
  let before := (← get).asked
  modify fun s => { s with asked := before || asked }
  tryCatch body fun stop => do
    modify fun s => { s with asked := before }
    throw stop
  modify fun s => { s with asked := before }

/-- A state after a part that ran by itself: what it printed, what it read and what it did to files
stay, and all else is as before. -/
def State.rejoined (before after : State) : State :=
  { before with
    status := after.status
    input := after.input
    clock := after.clock
    patience := after.patience
    printed := after.printed
    caught := after.caught
    files := after.files }

/-- Run a part of a script by itself. Only what kills or holds up the whole script is felt outside
of it. -/
def alone (body : Run Unit) : Run Unit := do
  let before ← get
  modify fun s => { s with traps := s.traps.filter (·.2 == "") }
  let code? ← tryCatch (do body; pure none) fun
    | .exited code => pure (some code)
    | .leave _ | .again _ | .returned => pure none
    | stop => do
      modify before.rejoined
      throw stop
  modify fun s =>
    let s := before.rejoined s
    { s with status := code?.getD s.status }

/-- Run a part of a script by itself for what it prints, up to the last of it. Should that hold up
the whole script, then this is part of the answer. -/
def catching (body : Run Unit) : Run (String × Option Stop) := do
  let before ← get
  modify fun s => { s with
    caught := .empty :: s.caught
    sinks := (1, .caught s.caught.length) :: s.sinks.filter (·.1 != 1) }
  let stop? ← tryCatch (do alone body; pure none) fun stop => pure (some stop)
  let s ← get
  let transcript := s.caught.headD .empty
  set { s with caught := s.caught.tail, sinks := before.sinks }
  waitUntil transcript.last
  return (transcript.text, stop?)

end PluginHost.Shell

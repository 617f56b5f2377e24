import PluginHost.Outside.Shell.Condition
import PluginHost.Outside.Shell.Exit
import PluginHost.Outside.Shell.Printing
import PluginHost.Outside.Shell.Reading

/-!
The commands that work on the running script itself. A mistake in one of the
special ones ends the script.
-/
namespace PluginHost.Shell

namespace Builtin

/-- A number that is written in digits. -/
def number (word : String) : Run Nat :=
  match Number.natural? word with
  | some n => return n
  | none => refuse

/-- Leave loops, or go on with their next round. Outside of loops nothing is left. -/
def leave (words : List String) (stop : Nat → Stop) : Run Unit := do
  let count ← match words with
    | [] => pure 1
    | word :: _ => number word
  if count = 0 then refuse
  answer 0
  let loops := (← get).loops
  if loops ≠ 0 then throw (stop (min count loops))

/-- End the script, or the function that runs. Without a number the status stays; what is done on a
signal keeps the one before it. -/
def finish (words : List String) (stop : Nat → Stop) : Run Unit := do
  match words with
  | word :: _ => answer ((← number word) % 256)
  | [] => if let some status := (← get).trapped then answer status
  throw (stop (← get).status)

/-- The name and the value of an assignment, or a name alone. -/
def nameAndValue (word : String) : String × Option String :=
  let cs := word.toList
  let name := cs.takeWhile (· != '=')
  (String.ofList name, (cs.drop name.length).tail? |>.map String.ofList)

/-- Set variables, or note something of them. -/
def declare (words : List String) (note : String → State → State) : Run Unit := do
  for word in words do
    let (name, value?) := nameAndValue word
    if !isName name then refuse
    if let some value := value? then assign name value
    modify (note name)
  answer 0

/-- Variables of the function that runs. -/
def declareLocal (words : List String) : Run Unit := do
  if (← get).depth = 0 then refuse
  for word in words do
    let (name, value?) := nameAndValue word
    if !isName name then refuse
    modify fun s => { s with locals := (name, s.bindings.lookup name) :: s.locals }
    if let some value := value? then assign name value
  answer 0

/-- Take variables or functions away. -/
def unset (words : List String) : Run Unit := do
  let isOption (word : String) : Bool := word.toList.head? == some '-'
  if words.any fun word => isOption word && word != "-f" && word != "-v" then refuse
  for name in words.filter (!isOption ·) do
    if !isName name then refuse
    if words.head? == some "-f" then
      modify fun s => { s with functions := s.functions.filter (·.1 != name) }
    else
      if (← get).fixed.contains name then refuse
      modify fun s => { s with bindings := s.bindings.unset name }
  answer 0

/-- Turn an option on or off. -/
def setOption (isOn : Bool) (letter : Char) : Run Unit :=
  match letter with
  | 'e' => modify fun s => { s with options.exitOnFailure := isOn }
  | 'u' => modify fun s => { s with options.needsValues := isOn }
  | 'f' => modify fun s => { s with options.noFileNames := isOn }
  | c => if "aCbmnvxI".toList.contains c then pure () else refuse

/-- The letters of options that have names. -/
def optionNames : List (String × Char) :=
  [("errexit", 'e'), ("nounset", 'u'), ("noglob", 'f'), ("allexport", 'a'), ("noclobber", 'C'),
    ("notify", 'b'), ("monitor", 'm'), ("noexec", 'n'), ("verbose", 'v'), ("xtrace", 'x')]

/-- Turn options on or off, of which some have their names in the words behind them. The answer is
what is left of the words. -/
def setOptions (isOn : Bool) : (letters : List Char) → List String → Run (List String)
  | [], words => return words
  | 'o' :: letters, name :: words => do
    match optionNames.lookup name with
    | some letter =>
      setOption isOn letter
      setOptions isOn letters words
    | none => refuse
  | 'o' :: letters, [] => setOptions isOn letters []
  | letter :: letters, words => do
    setOption isOn letter
    setOptions isOn letters words

/-- Set options and arguments. Each round goes past a word. -/
def setAll : (rounds : Nat) → List String → Run Unit
  | 0, _ => answer 0
  | _, [] => answer 0
  | n + 1, word :: words => do
    let setArguments (arguments : List String) : Run Unit :=
      modify fun s => { s with arguments, status := 0 }
    match word.toList with
    | ['-', '-'] => setArguments words
    | ['-'] => if words.isEmpty then answer 0 else setArguments words
    | '-' :: c :: letters => setAll n (← setOptions true (c :: letters) words)
    | '+' :: c :: letters => setAll n (← setOptions false (c :: letters) words)
    | _ => setArguments (word :: words)

/-- Leave arguments behind. -/
def shift (words : List String) : Run Unit := do
  let count ← match words with
    | [] => pure 1
    | word :: _ => number word
  let s ← get
  if s.arguments.length < count then refuse
  set { s with arguments := s.arguments.drop count, status := 0 }

/-- Set what is done on signals: a text with commands, nothing if it is empty, or what is usual. -/
def trap (words : List String) : Run Unit := do
  let (action?, signals) := match words with
    | [] => (none, [])
    | [signal] => (none, [signal])
    | action :: signals =>
      if (Number.natural? action).isSome then (none, words)
      else if action = "-" then (none, signals)
      else (some action, signals)
  answer 0
  for signal in signals do
    match Signal.ofText? signal with
    | some n =>
      let name := Signal.name n
      modify fun s => { s with
        traps := (action?.map fun a => (name, a)).toList ++ s.traps.filter (·.1 != name) }
    | none =>
      answer 1
      break

/-- The commands of a file, in the running script. -/
def source (run : Command → Run Unit) (words : List String) : Run Unit := do
  let some name := words.head? | refuse
  match (← get).find name with
  | .ok (.file content) =>
    if !name.toList.contains '/' then refuse
    answer 0
    tryCatch (run (Command.read (Octets.ofBytes content))) fun
      | .returned => pure ()
      | stop => throw stop
  | _ => refuse

def evaluate (run : Command → Run Unit) (words : List String) : Run Unit := do
  let commands := Command.read (" ".intercalate words)
  if commands.isNothing then answer 0 else run commands

def special? (run : Command → Run Unit) (name : String) (words : List String) : Option (Run Unit) :=
  match name with
  | ":" | "times" => some (answer 0)
  | "." => some (source run words)
  | "break" => some (leave words .leave)
  | "continue" => some (leave words .again)
  | "eval" => some (evaluate run words)
  | "exit" => some (finish words .exited)
  | "return" => some (finish words fun _ => .returned)
  | "export" => some (declare (words.filter (· != "-p")) fun _ => id)
  | "readonly" => some (declare (words.filter (· != "-p")) fun name s =>
      { s with fixed := name :: s.fixed })
  | "set" => some (setAll (words.length + 1) words)
  | "shift" => some (shift words)
  | "trap" => some (trap words)
  | "unset" => some (unset words)
  | _ => none

/-! ### Others -/

/-- Send the script a signal. -/
def raise (run : Command → Run Unit) (signal : Nat) : Run Unit := do
  let action? := (← get).traps.lookup (Signal.name signal)
  answer 0
  match if Signal.isFinal signal then none else action? with
  | some action => if action != "" then act run action
  | none =>
    if Signal.isHolding signal then throw .endless
    else if !Signal.isHarmless signal then throw (.killed signal)

/-- Send a signal. What runs beside the script has come to its end before. -/
def kill (run : Command → Run Unit) (words : List String) : Run Unit := do
  let chosen? : Option (Nat × List String) :=
    match words with
    | "-s" :: name :: rest => (Signal.ofText? name).map (·, rest)
    | "--" :: rest => some (Signal.terminate, rest)
    | word :: rest =>
      match word.toList with
      | '-' :: 's' :: name => (Signal.ofText? (String.ofList name)).map (·, rest)
      | '-' :: name => (Signal.ofText? (String.ofList name)).map (·, rest)
      | _ => some (Signal.terminate, words)
    | [] => none
  match chosen? with
  | none | some (_, []) => answer mistaken
  | some (signal, processes) =>
    for process in processes do
      let job? := (← get).job? process
      if process = State.processNumber then
        if signal = 0 then answer 0 else raise run signal
      else if job?.isSome then answer 0
      else if (Number.natural? process).isSome then answer 1
      else
        answer mistaken
        break

/-- Wait for what runs beside the script, or for some of it. -/
def wait (processes : List String) : Run Unit := do
  answer 0
  if processes.isEmpty then
    for (_, moment) in (← get).jobs do waitUntil moment
  else
    for process in processes do
      match (← get).job? process with
      | some (status, moment) =>
        waitUntil moment
        answer status
      | none => answer 127

/-- Go to a directory. -/
def changeDirectory (words : List String) : Run Unit := do
  let s ← get
  let home := (s.bindings.lookup "HOME").getD ""
  let name := (words.filter fun word => word != "-P" && word != "-L" && word != "--").headD home
  if name = "" then answer 0
  else if s.files.isDirectory (s.path name) then set { s with directory := s.path name, status := 0 }
  else answer mistaken

/-- Read a line, with options in front of the names of variables. -/
def readInto : (raw : Bool) → List String → Run Unit
  | _, [] => answer mistaken
  | raw, "--" :: names => if names.isEmpty then answer mistaken else readLine raw names
  | raw, "-p" :: _ :: words => readInto raw words
  | raw, word :: words =>
    match word.toList with
    | ['-', 'r'] => readInto true words
    | '-' :: _ :: _ => answer mistaken
    | _ => readLine raw (word :: words)

/-- Answer a condition; words that are none fail with a status of their own. -/
def judge (words : List String) : Run Unit := do
  match Condition.holds? (← get) words with
  | some holds => test holds
  | none => answer mistaken

def printIn (format : String) (words : List String) : Run Unit := do
  let (text, status) := formatted format words
  print text
  if status ≠ 0 then answer status

/-- Print words in the format in front of them. There are no options. -/
def printFormatted : List String → Run Unit
  | "--" :: format :: words => printIn format words
  | format :: words =>
    if format.length ≥ 2 && format.toList.head? == some '-' then answer mistaken
    else printIn format words
  | [] => answer mistaken

/-- The other commands. -/
def plain? (run : Command → Run Unit) (name : String) (words : List String) : Option (Run Unit) :=
  match name with
  | "true" | "ulimit" | "hash" | "alias" | "jobs" => some (answer 0)
  | "false" => some (answer 1)
  | "umask" => some (if words.isEmpty then print "0022\n" else answer 0)
  | "echo" => some (print (echoed words))
  | "printf" => some (printFormatted words)
  | "read" => some (readInto false words)
  | "test" => some (judge words)
  | "[" =>
    let ends := (words.getLast?.bind (·.toList.head?)) == some ']'
    some (if ends then judge words.dropLast else answer mistaken)
  | "kill" => some (kill run words)
  | "wait" => some (wait words)
  | "cd" => some (changeDirectory words)
  | "pwd" => some do print (Octets.ofText (← get).directory.text ++ "\n")
  | "local" => some (declareLocal words)
  | _ => none

end Builtin

end PluginHost.Shell
